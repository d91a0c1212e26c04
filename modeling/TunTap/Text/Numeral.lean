/-!
# Numerals

Numbers as text: decimal numerals with a sign (`ofInt`), numerals in another base without leading zeros (`inBase`),
and hexadecimal numerals of a fixed width (`hex`), which show the lowest digits only.
-/

namespace TunTap.Numeral

/-- The decimal numeral of `n`. -/
def ofNat (n : Nat) : String := String.ofList (Nat.toDigits 10 n)

/-- The decimal numeral of `i`, with a minus sign if it is negative. -/
def ofInt : Int → String
  | .ofNat n => ofNat n
  | .negSucc n => "-" ++ ofNat (n + 1)

/-- The digits of `n` in base `b ≤ 16`, lower case, without leading zeros. -/
def inBase (b n : Nat) : String := String.ofList (Nat.toDigits b n)

/-- The `k` lowest hexadecimal digits of `n`, lower case. -/
def hexDigits : Nat → Nat → List Char
  | 0, _ => []
  | k + 1, n => hexDigits k (n / 16) ++ [Nat.digitChar (n % 16)]

/-- The `k` lowest hexadecimal digits of `n` as text, lower case. -/
def hex (k n : Nat) : String := String.ofList (hexDigits k n)

theorem length_hexDigits : ∀ k n, (hexDigits k n).length = k
  | 0, _ => rfl
  | k + 1, n => by simp [hexDigits, length_hexDigits k]

end TunTap.Numeral
