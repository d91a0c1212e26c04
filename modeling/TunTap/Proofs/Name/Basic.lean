import TunTap.Name
import TunTap.Proofs.Text.Utf8

/-!
# Names and their bytes

A text is a name exactly if it is valid (`Name.Valid`): at most 15 bytes, none of them nul. What becomes of a text is
decided by its length first and by its bytes then (`ofString_of_valid`, `ofString_of_long`, `ofString_of_nul`). The
stem of a field is short and free of nul bytes, and bytes like that are the stem of the field that they are written to
(`stem_ofBytes`). So a canonical name, one whose field holds its bytes and nul bytes after them, is determined by its
bytes (`Canonical.ext`), and a name made from a text has the bytes and the text that it was made from.
-/

namespace TunTap

/-! ## Stems -/

namespace NameField

theorem length_stem_lt (f : NameField) : f.stem.length < nameSize := by
  have h₁ : f.stem.length ≤ (f.toList.take (nameSize - 1)).length := (List.takeWhile_sublist _).length_le
  have h₂ : (f.toList.take (nameSize - 1)).length ≤ nameSize - 1 := List.length_take_le _ _
  exact Nat.lt_of_le_of_lt (Nat.le_trans h₁ h₂) (by decide)

theorem nul_notMem_stem (f : NameField) : 0 ∉ f.stem := fun h => by
  unfold stem at h
  have hp := List.all_eq_true.1 List.all_takeWhile 0 h
  simp at hp

/-- Bytes that are not nul pass the test that ends a stem. -/
theorem passes_of_nul_notMem {bs : List UInt8} (h0 : 0 ∉ bs) : ∀ b ∈ bs, decide (b ≠ 0) = true := by
  intro b hb
  rw [decide_eq_true_iff]
  rintro rfl
  exact h0 hb

/-- The stem ends before a nul byte, or before the last byte of the field. -/
theorem stem_of_toList {f : NameField} {bs rest : List UInt8} (h : f.toList = bs ++ rest) (hl : bs.length < nameSize)
    (h0 : 0 ∉ bs) (hr : bs.length = nameSize - 1 ∨ rest.head? = some 0) : f.stem = bs := by
  have ht : bs.length ≤ nameSize - 1 := Nat.le_of_lt_succ hl
  have hn : (rest.take (nameSize - 1 - bs.length)).takeWhile (· ≠ 0) = [] := by
    rcases hr with hr | hr
    · simp [hr]
    · obtain ⟨rest, rfl⟩ := List.head?_eq_some_iff.1 hr
      cases nameSize - 1 - bs.length <;> simp
  rw [stem, h, List.take_append, List.take_of_length_le ht, List.takeWhile_append_of_pos (passes_of_nul_notMem h0),
    hn, List.append_nil]

/-- Few bytes that are not nul are the stem of their field. -/
theorem stem_ofBytes {bs : List UInt8} (hl : bs.length < nameSize) (h0 : 0 ∉ bs) : (ofBytes bs).stem = bs := by
  refine stem_of_toList (toList_ofBytes (Nat.le_of_lt hl)) hl h0 (.inr ?_)
  rw [List.head?_replicate, if_neg (Nat.sub_ne_zero_of_lt hl)]

/-- Whatever follows the stem does not change it. -/
theorem stem_ofBytes_append {bs rest : List UInt8} (h : (bs ++ rest).length ≤ nameSize) (hl : bs.length < nameSize)
    (h0 : 0 ∉ bs) (hr : bs.length = nameSize - 1 ∨ rest.head? = some 0) : (ofBytes (bs ++ rest)).stem = bs := by
  have ht := toList_ofBytes h
  rw [List.append_assoc] at ht
  refine stem_of_toList ht hl h0 (hr.imp_right fun hr => ?_)
  rw [List.head?_append, hr]
  rfl

end NameField

namespace Name

/-! ## Texts that are names -/

/-- At most 15 bytes, none of them nul. -/
def Valid (s : String) : Prop := (Utf8.encode s.toList).length < nameSize ∧ 0 ∉ Utf8.encode s.toList

instance (s : String) : Decidable (Valid s) := inferInstanceAs (Decidable (_ ∧ _))

section OfString

variable {s : String}

theorem ofString_of_valid (h : Valid s) : ofString s = .ok (ofBytes (Utf8.encode s.toList)) := by
  have hl : ¬ nameSize ≤ (Utf8.encode s.toList).length := Nat.not_le.2 h.1
  simp [ofString, hl, h.2]

theorem ofString_of_long (h : nameSize ≤ (Utf8.encode s.toList).length) :
    ofString s = .error (.tooLong (Utf8.encode s.toList).length) := by
  simp [ofString, h]

theorem ofString_of_nul (hl : (Utf8.encode s.toList).length < nameSize) (h : 0 ∈ Utf8.encode s.toList) :
    ofString s = .error .containsNul := by
  have hl : ¬ nameSize ≤ (Utf8.encode s.toList).length := Nat.not_le.2 hl
  simp [ofString, hl, h]

/-- What a text that is no name is refused for. -/
theorem ofString_of_not_valid (h : ¬ Valid s) : ∃ e, ofString s = .error e := by
  by_cases hl : nameSize ≤ (Utf8.encode s.toList).length
  · exact ⟨_, ofString_of_long hl⟩
  · have h0 : 0 ∈ Utf8.encode s.toList := Classical.byContradiction fun h0 => h ⟨Nat.not_le.1 hl, h0⟩
    exact ⟨_, ofString_of_nul (Nat.not_le.1 hl) h0⟩

theorem ofString_eq_ok_iff {n : Name} : ofString s = .ok n ↔ Valid s ∧ n = ofBytes (Utf8.encode s.toList) := by
  by_cases h : Valid s
  · rw [ofString_of_valid h]
    simp [h, eq_comm]
  · obtain ⟨e, he⟩ := ofString_of_not_valid h
    simp [he, h]

end OfString

/-! ## Canonical names -/

/-- The field holds the bytes of the name and nul bytes after them. -/
def Canonical (n : Name) : Prop := n = ofBytes n.bytes

theorem length_bytes_lt (n : Name) : n.bytes.length < nameSize := n.field.length_stem_lt

theorem nul_notMem_bytes (n : Name) : 0 ∉ n.bytes := n.field.nul_notMem_stem

theorem bytes_ofBytes {bs : List UInt8} (hl : bs.length < nameSize) (h0 : 0 ∉ bs) : (ofBytes bs).bytes = bs :=
  NameField.stem_ofBytes hl h0

@[simp] theorem bytes_ofField (f : NameField) : (ofField f).bytes = f.stem :=
  bytes_ofBytes f.length_stem_lt f.nul_notMem_stem

theorem canonical_ofBytes {bs : List UInt8} (hl : bs.length < nameSize) (h0 : 0 ∉ bs) : Canonical (ofBytes bs) := by
  rw [Canonical, bytes_ofBytes hl h0]

theorem canonical_ofField (f : NameField) : Canonical (ofField f) :=
  canonical_ofBytes f.length_stem_lt f.nul_notMem_stem

theorem canonical_empty : Canonical empty := canonical_ofBytes (by decide) List.not_mem_nil

theorem canonical_ofString {s : String} {n : Name} (h : ofString s = .ok n) : Canonical n := by
  obtain ⟨hs, rfl⟩ := ofString_eq_ok_iff.1 h
  exact canonical_ofBytes hs.1 hs.2

/-- A canonical name is read back from its own field. -/
theorem Canonical.ofField_field {n : Name} (h : Canonical n) : ofField n.field = n := h.symm

theorem Canonical.ext {m n : Name} (hm : Canonical m) (hn : Canonical n) (h : m.bytes = n.bytes) : m = n := by
  rw [hm, hn, h]

/-! ## The bytes and the text of a name -/

/-- The first byte tells whether there are any. -/
theorem isEmpty_iff {n : Name} : n.isEmpty = true ↔ n.bytes = [] := by
  have h : n.field.toList.head? = some n.field[0] := by
    rw [List.head?_eq_getElem?, Vector.getElem?_toList]
    rfl
  obtain ⟨bs, hbs⟩ := List.head?_eq_some_iff.1 h
  have ht : n.bytes = (n.field[0] :: bs.take (nameSize - 2)).takeWhile (· ≠ 0) := by
    rw [bytes, NameField.stem, hbs]
    rfl
  rw [isEmpty, ht, List.takeWhile_cons, decide_eq_true_iff]
  by_cases h0 : n.field[0] = 0 <;> simp [h0]

section Text

variable {s : String} {n : Name}

theorem bytes_ofString (h : ofString s = .ok n) : n.bytes = Utf8.encode s.toList := by
  obtain ⟨hs, rfl⟩ := ofString_eq_ok_iff.1 h
  exact bytes_ofBytes hs.1 hs.2

/-- The field of a name made from a text. -/
theorem toList_field_ofString (h : ofString s = .ok n) :
    n.field.toList =
      Utf8.encode s.toList ++ List.replicate (nameSize - (Utf8.encode s.toList).length) 0 := by
  obtain ⟨hs, rfl⟩ := ofString_eq_ok_iff.1 h
  exact NameField.toList_ofBytes (Nat.le_of_lt hs.1)

theorem text_ofString (h : ofString s = .ok n) : n.text = s := by
  rw [text, bytes_ofString h, Utf8.decode_encode, String.ofList_toList]

theorem toList_text (n : Name) : n.text.toList = Utf8.decode n.bytes := by
  rw [text, String.toList_ofList]

end Text

end Name

end TunTap
