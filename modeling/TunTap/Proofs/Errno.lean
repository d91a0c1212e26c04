import Mathlib.Data.List.Nodup
import TunTap.Error
import TunTap.Proofs.Text.Numeral
import TunTap.Proofs.Text.Utf8

/-!
# The number that an error carries

The table of error numbers has a row for each number from 1 to 133 but 41 and 58 (`isSome_row?_iff`). So an `Errno`
keeps a number in that range and has 0 for every other (`number_ofNumber`). Whatever number an error has, it is also
that of the system error that it becomes, and of the error that takes this one up again (`carries_iff`). No two rows
have one name, and no name has a colon in it, so the message of an `Errno` tells which one it is (`message_injective`).
It never ends in a bracket (`getLast?_message`).
-/

namespace TunTap

namespace Errno

/-- The numbers of the errors with a name. -/
def Named (n : Int32) : Prop := 1 ≤ n ∧ n ≤ 133 ∧ n ≠ 41 ∧ n ≠ 58

instance (n : Int32) : Decidable (Named n) := inferInstanceAs (Decidable (_ ∧ _))

theorem named_of_mem_rows : ∀ r ∈ rows, Named r.number := by
  decide +kernel

theorem isSome_row?_of_named_lt : ∀ k < 134, Named (.ofNat k) → (row? (.ofNat k)).isSome := by
  decide +kernel

theorem isSome_row?_iff {n : Int32} : (row? n).isSome ↔ Named n := by
  constructor
  · intro h
    rw [row?, List.find?_isSome] at h
    obtain ⟨r, hr, hn⟩ := h
    exact eq_of_beq hn ▸ named_of_mem_rows r hr
  · intro h
    have h₁ : 1 ≤ n.toInt := Int32.le_iff_toInt_le.1 h.1
    have h₂ : n.toInt ≤ 133 := Int32.le_iff_toInt_le.1 h.2.1
    obtain ⟨k, hk⟩ := Int.eq_ofNat_of_zero_le (show 0 ≤ n.toInt by omega)
    obtain rfl : n = .ofNat k := by
      rw [← Int32.ofInt_toInt n, hk]
      rfl
    exact isSome_row?_of_named_lt k (by omega) h

/-- A number without a name is lost. -/
theorem number_ofNumber (n : Int32) : (ofNumber n).number = if Named n then n else 0 := by
  split
  · next h => exact ofNumber_of_isSome (isSome_row?_iff.2 h)
  · next h =>
    have hn : row? n = none := Option.not_isSome_iff_eq_none.1 (mt isSome_row?_iff.1 h)
    rw [ofNumber_of_isNone hn]
    rfl

/-! ## Names -/

/-- The bytes of a text as one number, which is compared at once. -/
def byteCode (s : String) : Nat := s.toByteArray.data.toList.foldl (fun n b => 256 * n + b.toNat) 0

theorem nodup_byteCodes : (rows.map fun r => byteCode r.name).Nodup := by
  decide +kernel

theorem name_row_ne : ∀ r ∈ rows, r.name ≠ "UnknownErrno" := by
  decide +kernel

theorem colon_notMem_name_row : ∀ r ∈ rows, ':' ∉ r.name.toList := by
  decide +kernel

theorem mem_rows_of_row? {n : Int32} {r : Row} (h : row? n = some r) : r ∈ rows ∧ r.number = n := by
  rw [row?] at h
  have hn := List.find?_some h
  exact ⟨List.mem_of_find?_eq_some h, eq_of_beq hn⟩

/-- The name is that of a row, or that of the unknown error. -/
theorem name_cases (e : Errno) : (∃ r ∈ rows, r.number = e.number ∧ e.name = r.name) ∨
    e.number = 0 ∧ e.name = "UnknownErrno" := by
  unfold name
  cases hr : row? e.number with
  | none => exact .inr ⟨e.known.resolve_right (by simp [hr]), rfl⟩
  | some r =>
    obtain ⟨hm, hn⟩ := mem_rows_of_row? hr
    exact .inl ⟨r, hm, hn, rfl⟩

theorem eq_of_number_eq {e e' : Errno} (h : e.number = e'.number) : e = e' := by
  cases e
  cases e'
  cases h
  rfl

theorem name_injective {e e' : Errno} (h : e.name = e'.name) : e = e' := by
  apply eq_of_number_eq
  rcases e.name_cases with ⟨r, hr, hn, he⟩ | ⟨hn, he⟩ <;>
    rcases e'.name_cases with ⟨r', hr', hn', he'⟩ | ⟨hn', he'⟩ <;> rw [he, he'] at h
  · have hc : byteCode r.name = byteCode r'.name := congrArg byteCode h
    rw [← hn, ← hn', List.inj_on_of_nodup_map nodup_byteCodes hr hr' hc]
  · exact absurd h (name_row_ne r hr)
  · exact absurd h.symm (name_row_ne r' hr')
  · rw [hn, hn']

theorem colon_notMem_name (e : Errno) : ':' ∉ e.name.toList := by
  rcases e.name_cases with ⟨r, hr, -, he⟩ | ⟨-, he⟩
  · rw [he]
    exact colon_notMem_name_row r hr
  · rw [he]
    decide

/-- The name ends before the first colon. -/
theorem message_injective {e e' : Errno} (h : e.message = e'.message) : e = e' := by
  have hc : ∀ e : Errno, e.message.toList = e.name.toList ++ ':' :: (' ' :: e.text.toList) := fun e => by
    simp [message]
  have hm := congrArg String.toList h
  rw [hc, hc] at hm
  obtain ⟨hn, -⟩ := eq_of_append_cons e.colon_notMem_name e'.colon_notMem_name hm
  exact name_injective (String.toList_injective hn)

/-! ## Texts -/

/-- The bytes are read off at once, where the characters would have to be decoded. -/
theorem getLast?_bytes_text_row : ∀ r ∈ rows, r.text.toUTF8.data.toList.getLast? ≠ some 0x29 := by
  decide +kernel

theorem getLast?_text_row {r : Row} (hr : r ∈ rows) : r.text.toList.getLast? ≠ some ')' := by
  intro h
  obtain ⟨s, hs⟩ := List.getLast?_eq_some_iff.1 h
  have hb : r.text.toUTF8.data.toList = Utf8.encode s ++ [0x29] := by
    rw [← Utf8.encode_toList, hs, Utf8.encode_append]
    rfl
  exact getLast?_bytes_text_row r hr (by rw [hb, List.getLast?_concat])

theorem getLast?_text (e : Errno) : e.text.toList.getLast? ≠ some ')' := by
  unfold text
  cases hr : row? e.number with
  | none => decide
  | some r => exact getLast?_text_row (mem_rows_of_row? hr).1

/-- The text comes last in a message, after a blank. -/
theorem getLast?_message (e : Errno) : e.message.toList.getLast? ≠ some ')' := by
  have hm : e.message.toList = (e.name.toList ++ [':', ' ']) ++ e.text.toList := by
    simp [message]
  rw [hm, List.getLast?_append, List.getLast?_append]
  cases ht : e.text.toList.getLast? with
  | none => simp
  | some c =>
    have hc : some c ≠ some ')' := ht ▸ e.getLast?_text
    exact hc

end Errno

namespace Error

/-- The error has this number, and so have the system error that it becomes and the error taken up from that. -/
structure Carries (e : Error) (n : Int32) : Prop where
  own : e.number? = some n
  system : e.toSystem.number? = some n
  passedOn : e.passOn.number? = some n

theorem number?_toSystem (e : Error) : e.toSystem.number? = e.number? := by
  cases e <;> rfl

theorem carries_iff {e : Error} {n : Int32} : e.Carries n ↔ e.number? = some n := by
  constructor
  · exact fun h => h.own
  · exact fun h => ⟨h, (number?_toSystem e).trans h, (number?_passOn e).trans h⟩

end Error

end TunTap
