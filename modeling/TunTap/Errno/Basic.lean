import TunTap.Errno.Table
import TunTap.Text.Numeral

/-!
# Error numbers

An `Errno` is an error number that has a name, or the unknown error, which has number 0 (`ofNumber`). System calls
report plain numbers; what the system itself says of such a number is `systemText` and `systemKind`.
-/

namespace TunTap

/-- An error number with a name, or 0 for the unknown error. -/
structure Errno where
  number : Int32
  known : number = 0 ∨ (Errno.row? number).isSome
deriving DecidableEq

namespace Errno

/-- The error that stands for every number without a name. -/
def unknown : Errno := ⟨0, .inl rfl⟩

/-- The error with this number. -/
def ofNumber (n : Int32) : Errno :=
  if h : (row? n).isSome then ⟨n, .inr h⟩ else unknown

def name (e : Errno) : String := ((row? e.number).map (·.name)).getD "UnknownErrno"

def text (e : Errno) : String := ((row? e.number).map (·.text)).getD "Unknown errno"

/-- The name and what it means. -/
def message (e : Errno) : String := e.name ++ ": " ++ e.text

/-- The interrupted system call. -/
def interrupted : Int32 := 4

/-- The missing file or directory. -/
def notFound : Int32 := 2

/-- The text that the system gives for an error number, named or not. -/
def systemText (n : Int32) : String :=
  match row? n with
  | some r => r.systemText
  | none => if n = 0 then "Success" else "Unknown error " ++ Numeral.ofInt n.toInt

/-- The kind of a system error with this number. -/
def systemKind (n : Int32) : ErrorKind := ((row? n).map (·.kind)).getD .uncategorized

theorem ofNumber_of_isSome {n : Int32} (h : (row? n).isSome) : (ofNumber n).number = n := by
  simp [ofNumber, h]

theorem ofNumber_of_isNone {n : Int32} (h : row? n = none) : ofNumber n = unknown := by
  simp [ofNumber, h]

end Errno

end TunTap
