import Mathlib.Algebra.Group.Nat.Defs
import TunTap.Flags.Update
import TunTap.Request.Image

/-!
# Where unknown bits come from

No update sets an unknown bit of its own: it was set before, or is set in an operand (`bit_of_apply`), and a complement
leaves none (`known_of_bit_apply`). So an unknown bit that is set after a sequence of updates is set in the first word
or in some operand, and after a complement in a later operand (`Sources`). Words made from the known flags have no
unknown bits (`Made.onlyKnown`). Updates with such words never lead to any, and then a request keeps the whole word
(`unknown_bits_have_sources`).
-/

namespace TunTap.Flags

variable {w : Nat}

/-! ## Bits -/

/-- Whether bit `i` is set. -/
def bit (f : Flags w) (i : Nat) : Bool := f.bits.getLsbD i

/-- The bits with a meaning. -/
def Known (i : Nat) : Prop := i = 0 ∨ i = 1 ∨ i = 12

instance (i : Nat) : Decidable (Known i) := inferInstanceAs (Decidable (_ ∨ _))

theorem not_known_of_le {i : Nat} (hi : 16 ≤ i) : ¬ Known i := by
  unfold Known
  omega

/-- The word has no unknown bits. -/
def OnlyKnown (f : Flags w) : Prop := ∀ i, f.bit i = true → Known i

section Bits

variable {f g : Flags w} {i : Nat}

theorem bit_or : (f ||| g).bit i = (f.bit i || g.bit i) := BitVec.getLsbD_or

theorem bit_and : (f &&& g).bit i = (f.bit i && g.bit i) := BitVec.getLsbD_and

theorem bit_xor : (f ^^^ g).bit i = (f.bit i ^^ g.bit i) := BitVec.getLsbD_xor

theorem bit_empty : (empty : Flags w).bit i = false := BitVec.getLsbD_zero

theorem lt_of_bit (h : f.bit i = true) : i < w := BitVec.lt_of_getLsbD h

theorem bit_sub : (f - g).bit i = (f.bit i && !g.bit i) := by
  have hs : (f - g).bit i = (f.bit i && bit ⟨~~~g.bits⟩ i) := BitVec.getLsbD_and
  rw [hs]
  cases hf : f.bit i with
  | false => rfl
  | true =>
    rw [bit, BitVec.getLsbD_not, decide_eq_true (lt_of_bit hf)]
    rfl

/-- A power of two has one bit, if the word is wide enough for it. -/
theorem bit_two_pow {k : Nat} : bit (⟨BitVec.ofNat w (2 ^ k)⟩ : Flags w) i = true ↔ i < w ∧ i = k := by
  rw [bit, BitVec.getLsbD_ofNat, Bool.and_eq_true, Nat.testBit_two_pow, decide_eq_true_iff, decide_eq_true_iff,
    eq_comm (a := k)]

theorem bit_all : (all : Flags w).bit i = true ↔ i < w ∧ Known i := by
  have h0 : (tun : Flags w).bit i = true ↔ i < w ∧ i = 0 := bit_two_pow (k := 0)
  have h1 : (tap : Flags w).bit i = true ↔ i < w ∧ i = 1 := bit_two_pow (k := 1)
  have h12 : (noPacketInfo : Flags w).bit i = true ↔ i < w ∧ i = 12 := bit_two_pow (k := 12)
  rw [all, bit_or, bit_or, Bool.or_eq_true, Bool.or_eq_true, h0, h1, h12, or_assoc, ← and_or_left, ← and_or_left,
    Known]

theorem eq_empty_of_bit (h : ∀ i, f.bit i = false) : f = empty :=
  congrArg mk (BitVec.eq_of_getLsbD_eq fun i _ => (h i).trans bit_empty.symm)

/-- Taking the known bits away leaves nothing of a word without unknown ones. -/
theorem onlyKnown_iff : f.OnlyKnown ↔ f - all = empty := by
  constructor
  · intro h
    refine eq_empty_of_bit fun i => ?_
    rw [bit_sub]
    cases hf : f.bit i with
    | false => rfl
    | true =>
      rw [bit_all.2 ⟨lt_of_bit hf, h i hf⟩]
      rfl
  · intro h i hf
    have hs : (f - all).bit i = false := by rw [h, bit_empty]
    rw [bit_sub, hf, Bool.true_and, Bool.not_eq_false'] at hs
    exact (bit_all.1 hs).2

/-! ## Words without unknown bits -/

theorem OnlyKnown.or (hf : f.OnlyKnown) (hg : g.OnlyKnown) : (f ||| g).OnlyKnown := by
  intro i h
  rw [bit_or, Bool.or_eq_true] at h
  exact h.elim (hf i) (hg i)

theorem onlyKnown_empty : (empty : Flags w).OnlyKnown := by
  intro i h
  rw [bit_empty] at h
  cases h

theorem onlyKnown_all : (all : Flags w).OnlyKnown := fun _ h => (bit_all.1 h).2

theorem onlyKnown_mode (m : Mode) : (mode m : Flags w).OnlyKnown := by
  cases m with
  | tun => exact fun i h => .inl (bit_two_pow (k := 0) |>.1 h).2
  | tap => exact fun i h => .inr (.inl (bit_two_pow (k := 1) |>.1 h).2)

theorem onlyKnown_noPacketInfo : (noPacketInfo : Flags w).OnlyKnown :=
  fun _ h => .inr (.inr (bit_two_pow (k := 12) |>.1 h).2)

theorem onlyKnown_truncate (f : Flags w) : f.truncate.OnlyKnown := by
  intro i h
  rw [truncate, bit_and, Bool.and_eq_true] at h
  exact (bit_all.1 h.2).2

theorem bit_of_extend {gs : List (Flags w)} (h : (f.extend gs).bit i = true) :
    f.bit i = true ∨ ∃ g ∈ gs, g.bit i = true := by
  induction gs generalizing f with
  | nil => exact .inl h
  | cons g gs ih =>
    rcases ih (f := f ||| g) h with h | ⟨g', hg', h⟩
    · rw [bit_or, Bool.or_eq_true] at h
      exact h.imp_right fun h => ⟨g, List.mem_cons_self, h⟩
    · exact .inr ⟨g', List.mem_cons_of_mem _ hg', h⟩

end Bits

/-- The ways to make a word from the known flags. -/
inductive Made : Flags w → Prop
  | device (m : Mode) (packetInfo : Bool) : Made (device m packetInfo)
  | empty : Made empty
  | all : Made all
  | tunNoPacketInfo : Made (tun ||| noPacketInfo)
  | ofBits {bits : BitVec w} {f : Flags w} (h : ofBits? bits = some f) : Made f
  | truncate (f : Flags w) : Made f.truncate
  | ofList {gs : List (Flags w)} (h : ∀ g ∈ gs, Made g) : Made (ofList gs)

theorem Made.onlyKnown {f : Flags w} (h : f.Made) : f.OnlyKnown := by
  induction h with
  | device m packetInfo =>
    cases packetInfo with
    | true => exact onlyKnown_mode m
    | false => exact (onlyKnown_mode m).or onlyKnown_noPacketInfo
  | empty => exact onlyKnown_empty
  | all => exact onlyKnown_all
  | tunNoPacketInfo => exact (onlyKnown_mode .tun).or onlyKnown_noPacketInfo
  | ofBits h =>
    obtain ⟨hs, hf⟩ := Option.ite_none_right_eq_some.1 h
    cases hf
    exact onlyKnown_iff.2 hs
  | truncate f => exact onlyKnown_truncate f
  | ofList h ih =>
    intro i hi
    rcases bit_of_extend hi with hi | ⟨g, hg, hi⟩
    · exact onlyKnown_empty i hi
    · exact ih g hg i hi

/-! ## Updates -/

namespace Update

/-- The words that an update is given. -/
def operands : Update w → List (Flags w)
  | insert g | remove g | toggle g | set g _ | union g | inter g | diff g | symmDiff g | or g | and g | sub g
  | xor g => [g]
  | extend gs => gs
  | complement | not => []

/-- The update cuts to the known bits. -/
def Cuts : Update w → Prop
  | complement | not => True
  | _ => False

/-- The bit is set in an operand. -/
def Used (us : List (Update w)) (i : Nat) : Prop := ∃ u ∈ us, ∃ g ∈ u.operands, g.bit i = true

/-- Where a bit that is set after updates of a word can come from. -/
structure Sources (f : Flags w) (us : List (Update w)) (i : Nat) : Prop where
  /-- The word itself or an operand, whatever the updates. -/
  anywhere : f.bit i = true ∨ Used us i
  /-- Where an update cuts, be it the last one that does, an operand after it. -/
  afterCut : ∀ before u after, us = before ++ u :: after → u.Cuts → Used after i

section Steps

variable {f : Flags w} {u : Update w} {i : Nat}

theorem known_of_bit_apply (hu : u.Cuts) (h : (apply f u).bit i = true) : Known i := by
  cases u with
  | complement | not => exact onlyKnown_truncate _ i h
  | _ => cases hu

theorem bit_of_apply (hi : ¬ Known i) (h : (apply f u).bit i = true) :
    f.bit i = true ∨ ∃ g ∈ u.operands, g.bit i = true := by
  have hadd : ∀ g : Flags w, (f ||| g).bit i = true → f.bit i = true ∨ ∃ g' ∈ [g], g'.bit i = true := fun g h => by
    simpa [bit_or] using h
  have hsub : ∀ g : Flags w, (f - g).bit i = true → f.bit i = true := fun g h => by
    rw [bit_sub, Bool.and_eq_true] at h
    exact h.1
  cases u with
  | insert g | union g | or g => exact hadd g h
  | remove g | diff g | sub g => exact .inl (hsub g h)
  | set g on =>
    cases on with
    | true => exact hadd g h
    | false => exact .inl (hsub g h)
  | toggle g | symmDiff g | xor g =>
    -- a bit that is set in one of the words only is set in the two taken together
    apply hadd g
    have hx : (f ^^^ g).bit i = true := h
    rw [bit_xor] at hx
    rw [bit_or]
    cases hf : f.bit i with
    | true => rfl
    | false => rwa [hf, Bool.false_xor] at hx
  | inter g | and g =>
    have ha : (f &&& g).bit i = true := h
    rw [bit_and, Bool.and_eq_true] at ha
    exact .inl ha.1
  | extend gs => exact bit_of_extend h
  | complement | not => exact absurd (onlyKnown_truncate _ i h) hi

end Steps

theorem bit_of_run {i : Nat} (hi : ¬ Known i) : ∀ {f : Flags w} {us : List (Update w)}, (run f us).bit i = true →
    f.bit i = true ∨ Used us i
  | _, [], h => .inl h
  | f, u :: us, h => by
    rcases bit_of_run hi (f := apply f u) h with h | ⟨u', hu', h⟩
    · exact (bit_of_apply hi h).imp_right fun h => ⟨u, List.mem_cons_self, h⟩
    · exact .inr ⟨u', List.mem_cons_of_mem _ hu', h⟩

theorem sources_of_bit_run {f : Flags w} {us : List (Update w)} {i : Nat} (hi : ¬ Known i)
    (h : (run f us).bit i = true) : Sources f us i where
  anywhere := bit_of_run hi h
  afterCut := by
    rintro before u after rfl hu
    rw [run, List.foldl_append, List.foldl_cons] at h
    -- the cut clears the bit, so the updates after it have to set it again
    exact (bit_of_run hi h).resolve_left fun h => hi (known_of_bit_apply hu h)

/-- Updates of a made word with made operands. -/
theorem onlyKnown_run {f : Flags w} {us : List (Update w)} (hf : f.Made)
    (hus : ∀ u ∈ us, ∀ g ∈ u.operands, g.Made) : (run f us).OnlyKnown := by
  intro i h
  by_cases hi : Known i
  · exact hi
  · rcases bit_of_run hi h with h | ⟨u, hu, g, hg, h⟩
    · exact hf.onlyKnown i h
    · exact (hus u hu g hg).onlyKnown i h

end Update

/-! ## Requests -/

section Narrow

variable {f : Flags 32}

theorem bit_narrow {i : Nat} (hi : i < 16) : f.narrow.bit i = f.bit i := by
  rw [bit, narrow, BitVec.getLsbD_setWidth, decide_eq_true hi, Bool.true_and, bit]

theorem OnlyKnown.bit_eq_false (h : f.OnlyKnown) {i : Nat} (hi : ¬ Known i) : f.bit i = false :=
  Bool.eq_false_iff.2 (mt (h i) hi)

/-- The sign bit has no meaning. -/
theorem OnlyKnown.msb_narrow (h : f.OnlyKnown) : f.narrow.bits.msb = false := by
  rw [BitVec.msb_eq_getLsbD_last]
  exact (bit_narrow (by decide)).trans (h.bit_eq_false (by decide))

theorem OnlyKnown.signExtend_narrow (h : f.OnlyKnown) : f.narrow.bits.signExtend 32 = f.bits := by
  refine BitVec.eq_of_getLsbD_eq fun i hi => ?_
  rw [BitVec.getLsbD_signExtend, decide_eq_true hi, Bool.true_and, h.msb_narrow]
  split
  · next hlt => exact bit_narrow hlt
  · next hge => exact (h.bit_eq_false (not_known_of_le (Nat.not_lt.1 hge))).symm

/-- **Unknown bits have sources.** One that is set in the end is set in an operand after the last cut, or, if nothing
cuts, in the first word or some operand. Words made from the known flags lead to no unknown bit at any time, and a
request for such a word keeps it whole and is never negative. -/
theorem unknown_bits_have_sources :
    (∀ (f : Flags 32) (us : List (Update 32)) (i : Nat), ¬ Known i → (Update.run f us).bit i = true →
      Update.Sources f us i) ∧
      ∀ (n : Name) (f : Flags 32) (us : List (Update 32)), f.Made → (∀ u ∈ us, ∀ g ∈ u.operands, g.Made) → ∀ k,
        let v := Update.run f (us.take k)
        v - all = empty ∧ (Request.new n v).flags.bits.signExtend 32 = v.bits ∧
          0 ≤ (Request.new n v).flags.bits.toInt := by
  refine ⟨fun f us i => Update.sources_of_bit_run, fun n f us hf hus k => ?_⟩
  have hv : (Update.run f (us.take k)).OnlyKnown :=
    Update.onlyKnown_run hf fun u hu => hus u (List.mem_of_mem_take hu)
  exact ⟨onlyKnown_iff.1 hv, hv.signExtend_narrow, BitVec.toInt_nonneg_of_msb_false hv.msb_narrow⟩

/-- The sign bit of an operand after a complement, and made words under updates that set, cut and take away. -/
theorem unknown_bits_have_sources_after_complement :
    let f : Flags 32 := ⟨0x80000008#32⟩
    let last : Update 32 := .toggle ⟨0x80000010#32⟩
    let g : Flags 32 := truncate ⟨0xffffffff#32⟩
    let us : List (Update 32) := [.xor (device .tap true), .not, .extend [ofList [all, empty]]]
    ¬ Known 31 ∧ (Update.run f [.complement, last]).bit 31 = true ∧ Update.Used [last] 31 ∧
      g.Made ∧ (∀ u ∈ us, ∀ g ∈ u.operands, g.Made) ∧
      let v := Update.run g (us.take 1)
      v = tun ||| noPacketInfo ∧ (Request.new (.ofBytes []) v).flags.bits.signExtend 32 = v.bits := by
  intro f last g us
  obtain ⟨hsource, hmade⟩ := unknown_bits_have_sources
  have hi : ¬ Known 31 := by decide
  have hb : (Update.run f [.complement, last]).bit 31 = true := by decide
  have hs := hsource f [.complement, last] 31 hi hb
  have hg : g.Made := .truncate _
  have hl : (ofList [all, empty] : Flags 32).Made :=
    .ofList (List.forall_mem_cons.2 ⟨.all, List.forall_mem_singleton.2 .empty⟩)
  have hus : ∀ u ∈ us, ∀ g ∈ u.operands, g.Made := by
    simp only [us, List.forall_mem_cons, Update.operands]
    exact ⟨⟨.device .tap true, nofun⟩, nofun, ⟨hl, nofun⟩, nofun⟩
  exact ⟨hi, hb, hs.afterCut [] _ _ rfl trivial, hg, hus, by decide, (hmade _ g us hg hus 1).2.1⟩

end Narrow

end TunTap.Flags
