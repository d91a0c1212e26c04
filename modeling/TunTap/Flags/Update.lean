import TunTap.Flags.Basic

/-!
# Updates of flag words

The ways to change a flag word in place (`Update`), and what a sequence of them makes of a word (`run`). Several
updates have the same effect under different names; only `complement` and `not` cut to the known bits.
-/

namespace TunTap.Flags

/-- A change of a flag word. -/
inductive Update (w : Nat) where
  | insert (operand : Flags w)
  | remove (operand : Flags w)
  | toggle (operand : Flags w)
  | set (operand : Flags w) (on : Bool)
  | extend (operands : List (Flags w))
  | union (operand : Flags w)
  | inter (operand : Flags w)
  | diff (operand : Flags w)
  | symmDiff (operand : Flags w)
  | complement
  | or (operand : Flags w)
  | and (operand : Flags w)
  | sub (operand : Flags w)
  | xor (operand : Flags w)
  | not
deriving DecidableEq

namespace Update

variable {w : Nat}

/-- The word after an update. -/
def apply (f : Flags w) : Update w → Flags w
  | insert g | union g | or g | set g true => f ||| g
  | remove g | diff g | sub g | set g false => f - g
  | toggle g | symmDiff g | xor g => f ^^^ g
  | inter g | and g => f &&& g
  | extend gs => f.extend gs
  | complement | not => ~~~f

/-- The word after a sequence of updates. -/
def run (f : Flags w) (us : List (Update w)) : Flags w := us.foldl apply f

end Update

end TunTap.Flags
