import TunTap.Flags.Update
import TunTap.Request.Image

/-!
# Updates and the low bits

A request keeps the low 16 bits of a flag word (`narrow`). Cutting a word to them goes with every update: the updates
of the wide word, each with its operands cut as well, do to the narrow word what they do to the wide one
(`narrow_run`). On the narrow word as a signed number, an update is one operation on words, and the complement is cut
to `0x1003` (`Update.onWord`, `word_run`). So no bit above the low ones, of a word or of an operand, is ever seen in a
request (`low_bits_evolve_alone`).
-/

namespace TunTap.Flags

/-! ## Cutting words -/

section Narrow

variable (f g : Flags 32)

theorem narrow_or : (f ||| g).narrow = f.narrow ||| g.narrow :=
  congrArg mk BitVec.setWidth_or

theorem narrow_and : (f &&& g).narrow = f.narrow &&& g.narrow :=
  congrArg mk BitVec.setWidth_and

theorem narrow_xor : (f ^^^ g).narrow = f.narrow ^^^ g.narrow :=
  congrArg mk BitVec.setWidth_xor

theorem narrow_not : narrow ⟨~~~f.bits⟩ = ⟨~~~f.narrow.bits⟩ :=
  congrArg mk (BitVec.setWidth_not (by decide))

theorem narrow_sub : (f - g).narrow = f.narrow - g.narrow :=
  (narrow_and f ⟨~~~g.bits⟩).trans (congrArg (f.narrow &&& ·) (narrow_not g))

theorem narrow_all : (all : Flags 32).narrow = all := by decide

theorem narrow_compl : (~~~f).narrow = ~~~f.narrow := by
  show (truncate ⟨~~~f.bits⟩).narrow = truncate ⟨~~~f.narrow.bits⟩
  rw [truncate, narrow_and, narrow_not, narrow_all, truncate]

theorem narrow_extend (gs : List (Flags 32)) : (f.extend gs).narrow = f.narrow.extend (gs.map narrow) := by
  rw [extend, extend, List.foldl_map]
  exact (List.foldl_hom narrow fun f g => (narrow_or f g).symm).symm

end Narrow

namespace Update

/-- The update with other operands. -/
def map {v w : Nat} (φ : Flags v → Flags w) : Update v → Update w
  | insert g => insert (φ g)
  | remove g => remove (φ g)
  | toggle g => toggle (φ g)
  | set g on => set (φ g) on
  | extend gs => extend (gs.map φ)
  | union g => union (φ g)
  | inter g => inter (φ g)
  | diff g => diff (φ g)
  | symmDiff g => symmDiff (φ g)
  | complement => complement
  | or g => or (φ g)
  | and g => and (φ g)
  | sub g => sub (φ g)
  | xor g => xor (φ g)
  | not => not

theorem narrow_apply (f : Flags 32) (u : Update 32) : (apply f u).narrow = apply f.narrow (u.map narrow) := by
  cases u with
  | insert g | union g | or g => exact narrow_or f g
  | remove g | diff g | sub g => exact narrow_sub f g
  | toggle g | symmDiff g | xor g => exact narrow_xor f g
  | inter g | and g => exact narrow_and f g
  | set g on =>
    cases on with
    | true => exact narrow_or f g
    | false => exact narrow_sub f g
  | extend gs => exact narrow_extend f gs
  | complement | not => exact narrow_compl f

theorem narrow_run (f : Flags 32) (us : List (Update 32)) :
    (run f us).narrow = run f.narrow (us.map (map narrow)) := by
  rw [run, run, List.foldl_map]
  exact (List.foldl_hom narrow fun f u => (narrow_apply f u).symm).symm

end Update

/-! ## Signed words -/

/-- A narrow word as a signed number. -/
def word (f : Flags 16) : Int16 := .ofBitVec f.bits

/-- Cutting a word is cutting the signed number that it writes. -/
theorem word_narrow (f : Flags 32) : f.narrow.word = (Int32.ofBitVec f.bits).toInt16 :=
  congrArg Int16.ofBitVec (BitVec.signExtend_eq_setWidth_of_le f.bits (by decide)).symm

namespace Update

/-- What an update makes of a signed word. -/
def onWord (a : Int16) : Update 16 → Int16
  | insert g | union g | or g | set g true => a ||| g.word
  | remove g | diff g | sub g | set g false => a &&& ~~~g.word
  | toggle g | symmDiff g | xor g => a ^^^ g.word
  | inter g | and g => a &&& g.word
  | extend gs => gs.foldl (fun b g => b ||| g.word) a
  | complement | not => ~~~a &&& 0x1003

theorem word_extend (f : Flags 16) (gs : List (Flags 16)) :
    (f.extend gs).word = gs.foldl (fun b g => b ||| g.word) f.word :=
  (List.foldl_hom word fun _ _ => rfl).symm

theorem word_apply (f : Flags 16) (u : Update 16) : (apply f u).word = onWord f.word u := by
  cases u with
  | set g on => cases on <;> rfl
  | extend gs => exact word_extend f gs
  | _ => rfl

theorem word_run (f : Flags 16) (us : List (Update 16)) : (run f us).word = us.foldl onWord f.word :=
  (List.foldl_hom word fun f u => (word_apply f u).symm).symm

/-! ## Requests -/

/-- **Updates act on the low bits alone.** The signed word in a request is what the updates, with their operands cut to
the low bits, make of the low bits of the first word. First words and operands that differ above the low bits are sent
as the same bytes. -/
theorem low_bits_evolve_alone (n : Name) (f : Flags 32) (us : List (Update 32)) :
    (Request.new n (run f us)).flags.word =
        (us.map (map narrow)).foldl onWord (Int32.ofBitVec f.bits).toInt16 ∧
      ∀ g vs, g.narrow = f.narrow → vs.map (map narrow) = us.map (map narrow) →
        (Request.new n (run g vs)).image = (Request.new n (run f us)).image := by
  constructor
  · rw [Request.new, narrow_run, word_run, word_narrow]
  · intro g vs hg hv
    rw [Request.new, narrow_run, hg, hv, ← narrow_run, Request.new]

/-- Words and operands that differ in high bits, sign bits among them, with a complement in between. -/
theorem low_bits_evolve_alone_under_signs :
    let n := Name.ofField (.ofBytes [0x74])
    let f : Flags 32 := ⟨0x80018001#32⟩
    let us : List (Update 32) := [.toggle ⟨0xdead8000#32⟩, .complement, .extend [⟨0xffff8000#32⟩, ⟨0x10000#32⟩]]
    let g : Flags 32 := ⟨0x00008001#32⟩
    let vs : List (Update 32) := [.toggle ⟨0x8000#32⟩, .complement, .extend [⟨0x8000#32⟩, .empty]]
    g.narrow = f.narrow ∧ vs.map (map narrow) = us.map (map narrow) ∧ run g vs ≠ run f us ∧
      (Request.new n (run f us)).flags.word = -0x6ffe ∧
      (Request.new n (run g vs)).image = (Request.new n (run f us)).image := by
  intro n f us g vs
  obtain ⟨hword, hsame⟩ := low_bits_evolve_alone n f us
  have hg : g.narrow = f.narrow := by decide
  have hv : vs.map (map narrow) = us.map (map narrow) := by decide
  refine ⟨hg, hv, by decide, hword.trans ?_, hsame g vs hg hv⟩
  decide

end Update

end TunTap.Flags
