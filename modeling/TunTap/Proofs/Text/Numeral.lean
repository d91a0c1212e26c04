import Mathlib.Algebra.Group.Nat.Defs
import TunTap.Text.Numeral

/-!
# Numerals read back

A sequence of digits has a value in every base up to 16 (`value`). It is the number that the digits were written for
(`value_toDigits`), or what remains of the number where only the lowest digits were written (`value_hexDigits`). So
different numbers have different decimal numerals, the sign included (`ofInt_injective`). A text can be cut at the
first of its characters of some kind (`eq_of_append_cons`), and so a numeral can be told from what stands after a
space behind it (`ofInt_append_injective`).
-/

namespace TunTap

/-- A text is cut at a character in one way, if the character is not in the part before. -/
theorem eq_of_append_cons {a : Char} : ∀ {s t s' t' : List Char}, a ∉ s → a ∉ t → s ++ a :: s' = t ++ a :: t' →
    s = t ∧ s' = t'
  | [], [], _, _, _, _, h => ⟨rfl, (List.cons.inj h).2⟩
  | [], _ :: _, _, _, _, ht, h => absurd ((List.cons.inj h).1 ▸ List.mem_cons_self) ht
  | _ :: _, [], _, _, hs, _, h => absurd ((List.cons.inj h).1 ▸ List.mem_cons_self) hs
  | _ :: s, _ :: t, _, _, hs, ht, h => by
    rw [List.cons_append, List.cons_append, List.cons.injEq] at h
    obtain ⟨rfl, hr⟩ := eq_of_append_cons (mt (List.mem_cons_of_mem _) hs) (mt (List.mem_cons_of_mem _) ht) h.2
    exact ⟨by rw [h.1], hr⟩

namespace Numeral

/-- The value of a digit; letters follow on 9. -/
def digitValue (c : Char) : Nat :=
  if c.toNat < 'a'.toNat then c.toNat - '0'.toNat else c.toNat - 'a'.toNat + 10

/-- The number that digits stand for in base `b`, the highest digit first. -/
def value (b : Nat) (ds : List Char) : Nat := ds.foldl (fun n d => b * n + digitValue d) 0

theorem digitValue_digitChar : ∀ d < 16, digitValue d.digitChar = d := by decide

theorem value_concat (b : Nat) (ds : List Char) (d : Char) : value b (ds ++ [d]) = b * value b ds + digitValue d := by
  simp [value]

/-! ## Whole numerals -/

section ToDigits

variable {b : Nat}

theorem value_toDigits (hb : 1 < b) (hb' : b ≤ 16) (n : Nat) : value b (Nat.toDigits b n) = n := by
  induction n using Nat.strongRecOn with
  | ind n ih =>
    rw [Nat.toDigits_eq_if hb]
    split
    · next h =>
      simp [value, digitValue_digitChar n (by omega)]
    · next h =>
      have hm : n % b < b := Nat.mod_lt n (by omega)
      rw [value_concat, ih (n / b) (Nat.div_lt_self (by omega) hb), digitValue_digitChar _ (by omega),
        Nat.div_add_mod]

/-- A numeral consists of digits of its base. -/
theorem mem_toDigits (hb : 1 < b) {c : Char} {n : Nat} (h : c ∈ Nat.toDigits b n) : ∃ d < b, c = d.digitChar := by
  induction n using Nat.strongRecOn with
  | ind n ih =>
    rw [Nat.toDigits_eq_if hb] at h
    split at h
    · next hn => exact ⟨n, hn, List.mem_singleton.1 h⟩
    · next hn =>
      rcases List.mem_append.1 h with h | h
      · exact ih (n / b) (Nat.div_lt_self (by omega) hb) h
      · exact ⟨n % b, Nat.mod_lt n (by omega), List.mem_singleton.1 h⟩

/-- A character that is no digit of the base is not in a numeral. -/
theorem notMem_toDigits (hb : 1 < b) {c : Char} (hc : ∀ d < b, c ≠ d.digitChar) (n : Nat) : c ∉ Nat.toDigits b n := by
  intro h
  obtain ⟨d, hd, he⟩ := mem_toDigits hb h
  exact hc d hd he

end ToDigits

theorem toDigits_injective {b : Nat} (hb : 1 < b) (hb' : b ≤ 16) {m n : Nat} (h : Nat.toDigits b m = Nat.toDigits b n) :
    m = n := by
  rw [← value_toDigits hb hb' m, h, value_toDigits hb hb' n]

/-! ## Numerals of fixed width -/

theorem value_hexDigits : ∀ k n, value 16 (hexDigits k n) = n % 16 ^ k
  | 0, n => by simp [hexDigits, value, Nat.mod_one]
  | k + 1, n => by
    rw [hexDigits, value_concat, value_hexDigits k (n / 16), digitValue_digitChar _ (Nat.mod_lt n (by decide)),
      Nat.pow_succ', Nat.mod_mul]
    omega

/-! ## Decimal numerals with a sign -/

/-- The decimal numeral is the usual one. -/
theorem ofInt_eq_toString (i : Int) : ofInt i = toString i := by
  cases i <;> rfl

theorem toList_ofNat (n : Nat) : (ofNat n).toList = Nat.toDigits 10 n := by
  rw [ofNat, String.toList_ofList]

theorem toList_ofInt_negSucc (n : Nat) : (ofInt (.negSucc n)).toList = '-' :: Nat.toDigits 10 (n + 1) := by
  simp [ofInt, toList_ofNat]

theorem minus_notMem_toDigits (n : Nat) : '-' ∉ Nat.toDigits 10 n := notMem_toDigits (by decide) (by decide) n

theorem ofInt_injective {i j : Int} (h : ofInt i = ofInt j) : i = j := by
  have h : (ofInt i).toList = (ofInt j).toList := congrArg String.toList h
  cases i with
  | ofNat m =>
    cases j with
    | ofNat n =>
      rw [ofInt, ofInt, toList_ofNat, toList_ofNat] at h
      exact congrArg Int.ofNat (toDigits_injective (by decide) (by decide) h)
    | negSucc n =>
      rw [toList_ofInt_negSucc, ofInt, toList_ofNat] at h
      exact absurd (h ▸ List.mem_cons_self) (minus_notMem_toDigits m)
  | negSucc m =>
    cases j with
    | ofNat n =>
      rw [toList_ofInt_negSucc, ofInt, toList_ofNat] at h
      exact absurd (h ▸ List.mem_cons_self) (minus_notMem_toDigits n)
    | negSucc n =>
      rw [toList_ofInt_negSucc, toList_ofInt_negSucc, List.cons.injEq] at h
      have hs := toDigits_injective (by decide) (by decide) h.2
      rw [Nat.succ.inj hs]

theorem space_notMem_ofInt (i : Int) : ' ' ∉ (ofInt i).toList := by
  have hd : ∀ n, ' ' ∉ Nat.toDigits 10 n := notMem_toDigits (by decide) (by decide)
  cases i with
  | ofNat n =>
    rw [ofInt, toList_ofNat]
    exact hd n
  | negSucc n =>
    rw [toList_ofInt_negSucc, List.mem_cons, not_or]
    exact ⟨by decide, hd (n + 1)⟩

/-- A decimal numeral ends before the first space. -/
theorem ofInt_append_injective {i j : Int} {s t : List Char}
    (h : (ofInt i).toList ++ ' ' :: s = (ofInt j).toList ++ ' ' :: t) : i = j ∧ s = t := by
  obtain ⟨hi, hs⟩ := eq_of_append_cons (space_notMem_ofInt i) (space_notMem_ofInt j) h
  exact ⟨ofInt_injective (String.toList_injective hi), hs⟩

end Numeral

end TunTap
