import TunTap.Proofs.Configure

/-!
# Names fed back as text

A program comes by a name in five ways (`Name.Obtained`), and whichever it was, the name is canonical
(`Obtained.canonical`). Its text can be made into a name again. The text has no nul character and at most three bytes
for each byte of the name, so it is refused for its length or not at all; and it gives the name back exactly if the
bytes of the name were well-formed (`ofString_text_of_obtained`).
-/

namespace TunTap.Name

/-- The ways to come by a name. -/
inductive Obtained : Name → Prop
  | ofString {s : String} {n : Name} (h : ofString s = .ok n) : Obtained n
  | empty : Obtained empty
  | ofField (f : NameField) : Obtained (ofField f)
  /-- Read from a request, whatever was written to it. -/
  | ofRequest (r : Request) : Obtained r.name
  | configured {route : Route} {fd : Descriptor} {p : Params} {k : Kernel} {n : Name}
      (h : (configure route fd p k).result = .ok n) : Obtained n

theorem Obtained.canonical {n : Name} (h : n.Obtained) : n.Canonical := by
  cases h with
  | ofString h => exact canonical_ofString h
  | empty => exact canonical_empty
  | ofField f => exact canonical_ofField f
  | ofRequest r => exact canonical_ofField r.field
  | configured h => exact canonical_of_configure h

/-! ## The text of a name -/

theorem nul_notMem_encode_text (n : Name) : 0 ∉ Utf8.encode n.text.toList := by
  rw [toList_text]
  exact fun h => n.nul_notMem_bytes (Utf8.nul_mem_of_mem_decode (Utf8.nul_mem_encode.1 h))

theorem length_encode_text_le (n : Name) : (Utf8.encode n.text.toList).length ≤ 3 * n.length := by
  rw [toList_text]
  exact Utf8.length_encode_decode_le n.bytes

/-- The text of a canonical name gives it back exactly if the bytes are well-formed. -/
theorem Canonical.ofString_text_iff {n : Name} (h : n.Canonical) :
    ofString n.text = .ok n ↔ Utf8.WellFormed n.bytes := by
  constructor
  · intro hn
    exact ⟨n.text.toList, (bytes_ofString hn).symm⟩
  · intro hw
    have he : Utf8.encode n.text.toList = n.bytes := by rw [toList_text]; exact Utf8.wellFormed_iff.1 hw
    rw [ofString_eq_ok_iff, Valid, he]
    exact ⟨⟨n.length_bytes_lt, n.nul_notMem_bytes⟩, h⟩

/-- **Names fed back.** -/
theorem ofString_text_of_obtained {n : Name} (h : n.Obtained) :
    (ofString n.text = .ok n ↔ Utf8.WellFormed n.bytes) ∧
      (¬ Utf8.WellFormed n.bytes →
        (∃ m, m ≠ n ∧ ofString n.text = .ok m) ∨
          ∃ k, 16 ≤ k ∧ k ≤ 3 * n.length ∧ ofString n.text = .error (.tooLong k)) ∧
      ofString n.text ≠ .error .containsNul := by
  have hiff := h.canonical.ofString_text_iff
  have h0 := n.nul_notMem_encode_text
  by_cases hl : (Utf8.encode n.text.toList).length < nameSize
  · have hs := ofString_of_valid ⟨hl, h0⟩
    refine ⟨hiff, fun hw => .inl ⟨_, fun hm => hw (hiff.1 ?_), hs⟩, ?_⟩
    · rw [hs, hm]
    · rw [hs]; exact fun h => by cases h
  · have hs := ofString_of_long (Nat.not_lt.1 hl)
    refine ⟨hiff, fun _ => .inr ⟨_, Nat.not_lt.1 hl, n.length_encode_text_le, hs⟩, ?_⟩
    rw [hs]
    exact fun h => by cases h

/-- A field of 16 bytes is cut in the middle of its last character, and then the text is too long: seven characters of
two bytes, and one of three for what is left of the last. -/
theorem ofString_text_of_cut :
    let n := ofField (.ofBytes (Utf8.encode "éééééééé".toList))
    n.Obtained ∧ ¬ Utf8.WellFormed n.bytes ∧ ofString n.text = .error (.tooLong 17) ∧ 17 ≤ 3 * n.length ∧
      ofString n.text ≠ .ok n ∧ ofString n.text ≠ .error .containsNul := by
  intro n
  have hn : n.Obtained := .ofField _
  have hw : ¬ Utf8.WellFormed n.bytes := by
    rw [Utf8.wellFormed_iff]
    decide
  have hl : (Utf8.encode n.text.toList).length = 17 := by
    rw [toList_text]
    decide
  have hs : ofString n.text = .error (.tooLong 17) := by
    rw [ofString_of_long (by rw [hl]; decide), hl]
  obtain ⟨hiff, hout, hnul⟩ := ofString_text_of_obtained hn
  refine ⟨hn, hw, hs, ?_, mt hiff.1 hw, hnul⟩
  -- The bound comes with the length that the text is refused for.
  rcases hout hw with ⟨m, -, hm⟩ | ⟨k, -, hk, he⟩
  · rw [hs] at hm
    cases hm
  · rw [hs] at he
    cases he
    exact hk

end TunTap.Name
