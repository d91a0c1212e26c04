import TunTap.Errno.Basic
import TunTap.Name

/-!
# Errors

An `Error` says why a device could not be opened or bound. A `SystemError` is the form in which the rest of a program
passes errors on: an error number, or a kind with a text or with an `Error` inside. `Error.toSystem` turns the one into
the other; it gives a system error back as it is, so that errors never nest deeper than once.
-/

namespace TunTap

mutual

inductive Error where
  /-- The kernel refused the request. -/
  | refused (errno : Errno)
  | badName (cause : NameError)
  | system (cause : SystemError)
deriving DecidableEq

inductive SystemError where
  | code (number : Int32)
  | text (kind : ErrorKind) (text : String)
  | wrapped (kind : ErrorKind) (cause : Error)
deriving DecidableEq

end

/-! ## Texts -/

mutual

def Error.message : Error → String
  | .refused e => "Failed to configure the TUN/TAP device: " ++ e.message
  | .badName e => e.message
  | .system e => e.message

def SystemError.message : SystemError → String
  | .code n => Errno.systemText n ++ " (os error " ++ Numeral.ofInt n.toInt ++ ")"
  | .text _ s => s
  | .wrapped _ e => e.message

end

/-- The label of an error. -/
def Error.label : Error → String
  | refused _ => "ConfigurationFailed"
  | badName (.tooLong _) => "NameTooLong"
  | badName .containsNul => "NameContainsNul"
  | system _ => "IOError"

def SystemError.kind : SystemError → ErrorKind
  | code n => Errno.systemKind n
  | text k _ => k
  | wrapped k _ => k

/-- The parts of an error with a kind and a written cause. -/
def SystemError.labelledCause (kind : ErrorKind) (cause : String) : Labelled :=
  .byName "Custom" [("kind", kind.name), ("error", cause)]

mutual

def Error.labelled : Error → Labelled
  | .refused e => .byPosition (Error.label (.refused e)) [e.name]
  | .badName (.tooLong n) => .byPosition (Error.label (.badName (.tooLong n))) [Numeral.ofNat n]
  | .badName .containsNul => .bare (Error.label (.badName .containsNul))
  | .system e => .byPosition (Error.label (.system e)) [e.labelled.oneLine]

def SystemError.labelled : SystemError → Labelled
  | .code n =>
    .byName "Os"
      [("code", Numeral.ofInt n.toInt), ("kind", (Errno.systemKind n).name),
        ("message", Quoted.quote (Errno.systemText n))]
  | .text k s => SystemError.labelledCause k (Quoted.quote s)
  | .wrapped k e => SystemError.labelledCause k e.labelled.oneLine

end

/-! ## Error numbers and conversion -/

def SystemError.number? : SystemError → Option Int32
  | code n => some n
  | _ => none

namespace Error

/-- The error number behind an error. -/
def number? : Error → Option Int32
  | refused e => some e.number
  | badName _ => none
  | system e => e.number?

/-- The system error inside an error. -/
def source? : Error → Option SystemError
  | system e => some e
  | _ => none

/-- The error as a system error. -/
def toSystem : Error → SystemError
  | refused e => .code e.number
  | badName e => .wrapped .invalidInput (.badName e)
  | system e => e

/-- The error passed on as a system error and taken up again. -/
def passOn (e : Error) : Error := .system e.toSystem

@[simp] theorem toSystem_passOn (e : Error) : e.passOn.toSystem = e.toSystem := rfl

@[simp] theorem number?_passOn (e : Error) : e.passOn.number? = e.number? := by
  cases e <;> rfl

end Error

end TunTap
