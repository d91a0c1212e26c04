import TunTap.Proofs.Name.Basic

/-!
# Names made from texts

A text becomes a name, or is refused for its length, or else for a nul character in it. What counts is the size in
bytes, not the number of characters, and nul characters are the only ones that give nul bytes (`valid_iff`). An accepted
text is spelled by its name: every view of the name shows the text (`spells_of_ofString`), and no other name has these
views (`Spells.eq`). So validation is exact for every text, in whichever way it is handed over (`ofText_exact`).
-/

namespace TunTap.Name

theorem valid_iff {s : String} : Valid s ↔ s.utf8ByteSize < nameSize ∧ '\x00' ∉ s.toList := by
  rw [Valid, Utf8.length_encode_toList, Utf8.nul_mem_encode]

/-! ## What the name of a text shows -/

/-- The name shows the text in each of its views. -/
structure Spells (n : Name) (s : String) : Prop where
  bytes : n.bytes = s.toUTF8.data.toList
  length : n.length = s.utf8ByteSize
  isEmpty : n.isEmpty = true ↔ s = ""
  text : n.text = s
  field : n.field.toList = s.toUTF8.data.toList ++ List.replicate (nameSize - s.utf8ByteSize) 0

section Spells

variable {s : String} {m n : Name}

theorem spells_of_ofString (h : ofString s = .ok n) : n.Spells s where
  bytes := by rw [bytes_ofString h, Utf8.encode_toList]
  length := by rw [Name.length, bytes_ofString h, Utf8.length_encode_toList]
  isEmpty := by
    rw [isEmpty_iff, bytes_ofString h]
    refine ⟨fun he => ?_, fun he => by rw [he]; rfl⟩
    -- the only text without bytes is the empty one
    have hl : s.toList = [] := Utf8.encode_injective he
    exact String.toList_eq_nil_iff.1 hl
  text := text_ofString h
  field := by rw [toList_field_ofString h, Utf8.length_encode_toList, Utf8.encode_toList]

/-- A text is spelled by one name at most. -/
theorem Spells.eq (hm : m.Spells s) (hn : n.Spells s) : m = n := by
  have h : m.field.toList = n.field.toList := hm.field.trans hn.field.symm
  have hf : m.field = n.field := Vector.toList_inj.1 h
  cases m
  cases n
  exact congrArg Name.mk hf

end Spells

/-! ## What becomes of a text -/

theorem ofString_eq (s : String) : ofString s =
    if nameSize ≤ s.utf8ByteSize then .error (.tooLong s.utf8ByteSize)
    else if '\x00' ∈ s.toList then .error .containsNul
    else .ok (ofBytes s.toUTF8.data.toList) := by
  simp only [ofString, Utf8.length_encode_toList, Utf8.nul_mem_encode]
  rw [Utf8.encode_toList]

section OfString

variable {s : String}

theorem ofString_eq_tooLong_iff {k : Nat} :
    ofString s = .error (.tooLong k) ↔ nameSize ≤ s.utf8ByteSize ∧ k = s.utf8ByteSize := by
  rw [ofString_eq]
  by_cases hl : nameSize ≤ s.utf8ByteSize
  · simp [hl, eq_comm]
  · by_cases h0 : '\x00' ∈ s.toList <;> simp [hl, h0]

theorem ofString_eq_containsNul_iff :
    ofString s = .error .containsNul ↔ s.utf8ByteSize < nameSize ∧ '\x00' ∈ s.toList := by
  rw [ofString_eq, ← Nat.not_le]
  by_cases hl : nameSize ≤ s.utf8ByteSize
  · simp [hl]
  · by_cases h0 : '\x00' ∈ s.toList <;> simp [hl, h0]

theorem exists_ofString_eq_ok_iff : (∃ n, ofString s = .ok n) ↔ Valid s :=
  ⟨fun ⟨_, h⟩ => (ofString_eq_ok_iff.1 h).1, fun h => ⟨_, ofString_of_valid h⟩⟩

theorem ofString_eq_ok_iff_spells {n : Name} : ofString s = .ok n ↔ Valid s ∧ n.Spells s := by
  refine ⟨fun h => ⟨(ofString_eq_ok_iff.1 h).1, spells_of_ofString h⟩, fun ⟨hs, hn⟩ => ?_⟩
  have h := ofString_of_valid hs
  rw [h, (spells_of_ofString h).eq hn]

end OfString

theorem ofText_eq (w : Handover) (s : String) : ofText w s = ofString s := by
  cases w <;> rfl

/-- **Validation is exact.** In whichever way a text is handed over, it is refused for its length exactly if it has 16
bytes or more, it is refused for a nul character exactly if it is shorter and has one, and it is accepted otherwise, as
the one name that spells it. -/
theorem ofText_exact (w : Handover) (s : String) :
    (∀ w', ofText w' s = ofText w s) ∧
      (∀ k, ofText w s = .error (.tooLong k) ↔ 16 ≤ s.utf8ByteSize ∧ k = s.utf8ByteSize) ∧
      (ofText w s = .error .containsNul ↔ s.utf8ByteSize < 16 ∧ '\x00' ∈ s.toList) ∧
      ((∃ n, ofText w s = .ok n) ↔ s.utf8ByteSize < 16 ∧ '\x00' ∉ s.toList) ∧
      ∀ n, ofText w s = .ok n ↔ (s.utf8ByteSize < 16 ∧ '\x00' ∉ s.toList) ∧ n.Spells s := by
  rw [ofText_eq w s]
  refine ⟨fun w' => ofText_eq w' s, fun k => ofString_eq_tooLong_iff, ofString_eq_containsNul_iff, ?_, fun n => ?_⟩
  · rw [exists_ofString_eq_ok_iff, valid_iff]
  · rw [ofString_eq_ok_iff_spells, valid_iff]

/-- Eight characters, of 16 bytes. -/
example : ofString "éééééééé" = .error (.tooLong 16) := by rfl

end TunTap.Name
