import TunTap.Text.DefaultIgnorable
import TunTap.Text.GraphemeExtend
import TunTap.Text.Unprintable

/-!
# Quoted text

A text between double quotes, in which a double quote, a backslash and everything that would not show as a character
of its own are escaped. Escapes are `\"`, `\\`, `\0`, `\t`, `\r`, `\n`, and for all other characters the code point in
hexadecimal between braces after `\u`. A single quote stands for itself.
-/

namespace TunTap.Quoted

/-- The two halfwidth sound marks of the kana: they extend a grapheme, yet take a place of their own. -/
def soundMarks : List CodeRange := [(0xff9e, 0xff9f)]

/-- Characters that take no place of their own, but go onto the character before. -/
def Attached (c : Char) : Prop :=
  CodeRange.Covers GraphemeExtend.ranges c ∧ ¬ CodeRange.Covers soundMarks c

instance (c : Char) : Decidable (Attached c) :=
  inferInstanceAs (Decidable (_ ∧ _))

/-- Characters that would not show by themselves: not printable, left out of display, or attached. -/
def Hidden (c : Char) : Prop :=
  CodeRange.Covers Unprintable.ranges c ∨ CodeRange.Covers DefaultIgnorable.ranges c ∨ Attached c

instance (c : Char) : Decidable (Hidden c) :=
  inferInstanceAs (Decidable (_ ∨ _ ∨ _))

/-- The code point escape of a character. -/
def codePoint (c : Char) : List Char :=
  ['\\', 'u', '\x7b'] ++ Nat.toDigits 16 c.toNat ++ ['\x7d']

/-- A character inside quotes. -/
def escape (c : Char) : List Char :=
  match c with
  | '\x00' => ['\\', '0']
  | '\t' => ['\\', 't']
  | '\r' => ['\\', 'r']
  | '\n' => ['\\', 'n']
  | '"' => ['\\', '"']
  | '\\' => ['\\', '\\']
  | c => if Hidden c then codePoint c else [c]

/-- The quoted form of a text. -/
def quote (s : String) : String :=
  String.ofList ('"' :: s.toList.flatMap escape ++ ['"'])

example : Hidden '\u115f' ∧ Hidden '\u0ccb' ∧ ¬ Hidden '\uff9e' := by decide +kernel
example : quote "tun\"\t\u200b" = "\"tun\\\"\\t\\u\x7b200b\x7d\"" := by decide +kernel

end TunTap.Quoted
