import TunTap.Device
import TunTap.Errno.Basic
import TunTap.Name

/-!
# Log records

What is said about a configuration while it runs: an `Event`, with its level and its message, becomes a `Record`. A
filter lets through the records at least as severe as a level, or none.
-/

namespace TunTap

/-- A descriptor of an open file. -/
abbrev Descriptor := Int32

/-- How severe a record is, the most severe first. -/
inductive Level where
  | error | warn | info | debug | trace
deriving DecidableEq

namespace Level

/-- Records with a larger number are less severe. -/
def rank : Level → Nat
  | error => 1
  | warn => 2
  | info => 3
  | debug => 4
  | trace => 5

def name : Level → String
  | error => "ERROR"
  | warn => "WARN"
  | info => "INFO"
  | debug => "DEBUG"
  | trace => "TRACE"

/-- A limit lets a level through that is at least as severe; no limit means that nothing is let through. -/
def passes (limit : Option Level) (l : Level) : Bool := limit.any fun m => l.rank ≤ m.rank

end Level

structure Record where
  level : Level
  /-- The part of the program that wrote the record. -/
  target : String
  message : String
deriving DecidableEq

/-- What happens while a descriptor is bound. -/
inductive Event where
  | configuring (fd : Descriptor) (mode : Mode) (name : Name)
  | flagWord (flags : Flags 16)
  | refused (fd : Descriptor) (errno : Errno)
  | bound (fd : Descriptor) (name : Name)
deriving DecidableEq

namespace Event

def level : Event → Level
  | configuring .. => .debug
  | flagWord _ => .trace
  | refused .. => .warn
  | bound .. => .debug

def message : Event → String
  | configuring fd mode name =>
    "configuring fd " ++ Numeral.ofInt fd.toInt ++ " as " ++ mode.name ++ " device " ++ name.labelled.oneLine
  | flagWord f => "TUNSETIFF flags: " ++ f.paddedHex
  | refused fd errno => "TUNSETIFF on fd " ++ Numeral.ofInt fd.toInt ++ " failed: " ++ errno.message
  | bound fd name => "fd " ++ Numeral.ofInt fd.toInt ++ " is now bound to " ++ name.text

def record (e : Event) : Record := ⟨e.level, "tunconf::configure", e.message⟩

/-- The records of events that a limit lets through. -/
def records (limit : Option Level) (es : List Event) : List Record :=
  (es.map record).filter fun r => r.level.passes limit

end Event

end TunTap
