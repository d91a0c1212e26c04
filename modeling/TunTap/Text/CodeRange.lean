/-!
# Ranges of code points

A property of characters is a list of closed ranges of code points (`CodeRange.Covers`).
-/

namespace TunTap

/-- A closed range of code points: the first and the last. -/
abbrev CodeRange := Nat × Nat

/-- The character lies in one of the ranges. -/
def CodeRange.Covers (rs : List CodeRange) (c : Char) : Prop :=
  ∃ r ∈ rs, r.1 ≤ c.toNat ∧ c.toNat ≤ r.2

instance (rs : List CodeRange) (c : Char) : Decidable (CodeRange.Covers rs c) :=
  inferInstanceAs (Decidable (∃ r ∈ rs, r.1 ≤ c.toNat ∧ c.toNat ≤ r.2))

/-- Every range holds a code point and ends before the next one, with a gap between them. -/
def CodeRange.Ascending : List CodeRange → Prop
  | [] => True
  | [r] => r.1 ≤ r.2
  | r :: s :: rs => r.1 ≤ r.2 ∧ r.2 + 1 < s.1 ∧ Ascending (s :: rs)

instance CodeRange.decidableAscending : (rs : List CodeRange) → Decidable (Ascending rs)
  | [] => inferInstanceAs (Decidable True)
  | [r] => inferInstanceAs (Decidable (r.1 ≤ r.2))
  | r :: s :: rs =>
    have := decidableAscending (s :: rs)
    inferInstanceAs (Decidable (r.1 ≤ r.2 ∧ r.2 + 1 < s.1 ∧ Ascending (s :: rs)))

end TunTap
