import TunTap.Proofs.Name.Field
import TunTap.Proofs.Request.Layout

/-!
# Requests that are edited

Of a request a name and a flag word can be read (`Request.content`). An edit changes these two as if nothing else was
there (`content_apply`), and so does every sequence of edits (`content_run`), although the field of the request may
hold any bytes meanwhile: they are the field written last, or, since the request was last put together from a name, the
name with nul bytes after it (`Written`). Images tell requests apart, and rebuilding forgets all but the name
(`edits_refine_content`).
-/

namespace TunTap

namespace Flags

/-- The low 16 bits of a word as a signed number. -/
def low (f : Flags 32) : Int := f.bits.toInt.bmod 0x10000

theorem toInt_narrow (f : Flags 32) : f.narrow.bits.toInt = f.low := by
  have hd : 0x10000 ∣ 2 ^ 32 := by omega
  rw [narrow, BitVec.toInt_setWidth, low, BitVec.toInt_eq_toNat_bmod, Int.bmod_bmod_of_dvd hd]

end Flags

namespace Request

/-! ## What can be read of a request -/

/-- A name, and a flag word as a signed number. -/
structure Content where
  name : Name
  flags : Int
deriving DecidableEq

def content (r : Request) : Content := ⟨r.name, r.flags.bits.toInt⟩

/-- The content after an edit, where it was `first` at first. -/
def Content.after (first c : Content) : Edit → Content
  | .setField f => { c with name := .ofField f }
  | .rebuild f => { c with flags := f.low }
  | .reset => first

section Content

variable {n : Name}

theorem name_new (hn : n.Canonical) (f : Flags 32) : (new n f).name = n := hn.ofField_field

theorem content_new (hn : n.Canonical) (f : Flags 32) : (new n f).content = ⟨n, f.low⟩ := by
  unfold content
  rw [name_new hn, new, Flags.toInt_narrow]

theorem canonical_name (r : Request) : r.name.Canonical := Name.canonical_ofField r.field

theorem content_apply (r₀ r : Request) (e : Edit) :
    (e.apply r₀ r).content = Content.after r₀.content r.content e := by
  cases e with
  | setField f => rfl
  | rebuild f => exact content_new r.canonical_name f
  | reset => rfl

theorem content_run (r₀ : Request) : ∀ (r : Request) (es : List Edit),
    (r :: Edit.run r₀ r es).map content = es.scanl (Content.after r₀.content) r.content
  | r, [] => by simp [Edit.run]
  | r, e :: es => by
    rw [List.map_cons, List.scanl_cons, ← content_apply, ← content_run r₀ (e.apply r₀ r) es]
    rfl

end Content

/-! ## What stands in the field -/

/-- The field that an edit writes, if it does not put the request together from a name. -/
def Edit.written : Edit → Option NameField
  | .setField f => some f
  | .rebuild _ => none
  | .reset => none

/-- The field written last, if the request was not put together from a name since; `w` at first. -/
def Edit.lastWritten : Option NameField → List Edit → Option NameField
  | w, [] => w
  | _, e :: es => lastWritten e.written es

/-- The field is the one written, or else that of the name. -/
def Written (r : Request) (w : Option NameField) : Prop := r.field = w.getD r.name.field

section Written

variable {r₀ : Request} {n : Name}

theorem written_new (hn : n.Canonical) (f : Flags 32) : (new n f).Written none := by
  unfold Written
  rw [name_new hn]
  rfl

theorem written_apply (h₀ : r₀.Written none) (r : Request) (e : Edit) : (e.apply r₀ r).Written e.written := by
  cases e with
  | setField f => rfl
  | rebuild f => exact written_new r.canonical_name f
  | reset => exact h₀

/-- Each request of a run has the field that the edits up to it wrote. -/
theorem written_run (h₀ : r₀.Written none) : ∀ {r : Request} {w : Option NameField}, r.Written w →
    ∀ (es : List Edit) (i : Nat) (r' : Request), (r :: Edit.run r₀ r es)[i]? = some r' →
      r'.Written (Edit.lastWritten w (es.take i))
  | _, _, h, _, 0, _, hr => by
    cases hr
    exact h
  | _, _, _, [], _ + 1, _, hr => by simp [Edit.run] at hr
  | r, _, _, e :: es, i + 1, r', hr => by
    rw [List.getElem?_cons_succ, Edit.run] at hr
    exact written_run h₀ (written_apply h₀ r e) es i r' hr

end Written

/-! ## Images -/

/-- The image shows the flag word and, in front of it, the field written last or the name. -/
structure Shows (r : Request) (w : Option NameField) : Prop where
  length : r.image.length = 40
  field : r.image.take 16 =
    match w with
    | some f => f.toList
    | none => r.name.bytes ++ List.replicate (16 - r.name.length) 0
  flags : (littleEndian ((r.image.drop 16).take 2) : Int).bmod 0x10000 = r.content.flags
  unused : r.image.drop 18 = List.replicate 22 0

section Image

variable {r r' : Request} {w : Option NameField}

theorem Written.shows (h : r.Written w) : r.Shows w where
  length := length_image r
  field := by
    rw [take_image, show r.field = w.getD r.name.field from h]
    cases w with
    | some f => rfl
    | none => exact r.canonical_name.padded.field
  flags := by
    rw [littleEndian_image, content, BitVec.toInt_eq_toNat_bmod]
  unused := drop_image_unused r

theorem image_inj : r.image = r'.image ↔ r = r' := by
  constructor
  · intro h
    have hi : ofImage? r.image = ofImage? r'.image := congrArg ofImage? h
    rw [ofImage?_image, ofImage?_image] at hi
    exact Option.some.inj hi
  · exact congrArg image

theorem rebuild_eq_of_content_eq (h : r.content = r'.content) (f : Flags 32) : r.rebuild f = r'.rebuild f := by
  have hn : r.name = r'.name := congrArg Content.name h
  rw [rebuild, hn, rebuild]

end Image

/-- **Edits refine the content.** All that a history of edits leaves behind beside the content is the field written
last, and rebuilding drops that too. -/
theorem edits_refine_content :
    (∀ (n : Name) (f : Flags 32) (es : List Edit), n.Obtained →
      let r₀ := Request.new n f
      let states := r₀ :: Edit.run r₀ r₀ es
      states.map content = es.scanl (Content.after ⟨n, f.low⟩) ⟨n, f.low⟩ ∧
        ∀ (i : Nat) (r : Request), states[i]? = some r → r.Shows (Edit.lastWritten none (es.take i))) ∧
      (∀ r r' : Request, r = r' ↔ r.image = r'.image) ∧
      ∀ r r' : Request, r.content = r'.content → ∀ f, (r.rebuild f).image = (r'.rebuild f).image := by
  refine ⟨fun n f es hn => ⟨?_, fun i r hr => ?_⟩, fun r r' => image_inj.symm, fun r r' h f => ?_⟩
  · have h := content_run (new n f) (new n f) es
    rw [content_new hn.canonical f] at h
    exact h
  · have h₀ := written_new hn.canonical f
    exact (written_run h₀ h₀ es i r hr).shows
  · rw [rebuild_eq_of_content_eq h f]

/-- A word with bits 12, 15 and many above, a field without a nul byte written over the name and then cut to one by
rebuilding, and a request with the content that there was between the two but another image. -/
theorem edits_refine_content_of_cut :
    let n := Name.ofField (.ofBytes [0x74, 0, 0x78])
    let f : Flags 32 := ⟨0x7fff9001#32⟩
    let g := NameField.ofBytes (List.replicate 16 0x61)
    let r₀ := Request.new n f
    let es : List Edit := [.setField g, .rebuild ⟨0x10002#32⟩]
    let r := Request.new (.ofField g) f
    n.Obtained ∧
      (r₀ :: Edit.run r₀ r₀ es).map content = [⟨n, -0x6fff⟩, ⟨.ofField g, -0x6fff⟩, ⟨.ofField g, 2⟩] ∧
      (r₀.setField g).Shows (some g) ∧ ((r₀.setField g).rebuild ⟨0x10002#32⟩).Shows none ∧
      r.content = (r₀.setField g).content ∧ r.image ≠ (r₀.setField g).image ∧
      (r.rebuild .all).image = ((r₀.setField g).rebuild .all).image := by
  intro n f g r₀ es r
  obtain ⟨hrun, hinj, hrebuild⟩ := edits_refine_content
  have hn : n.Obtained := .ofField _
  obtain ⟨hcontent, hshows⟩ := hrun n f es hn
  have hc : r.content = (r₀.setField g).content := by decide
  have hr : r ≠ r₀.setField g := by decide
  refine ⟨hn, hcontent.trans ?_, hshows 1 _ rfl, hshows 2 _ rfl, hc, mt (hinj _ _).2 hr, hrebuild _ _ hc _⟩
  decide

end Request

end TunTap
