import TunTap.Flags.Basic
import TunTap.Name

/-!
# Interface requests

What the kernel is handed to bind a descriptor: a name field and a flag word of 16 bits, followed by unused bytes that
are nul. The kernel writes the name that it chose into the field (`setField`); `name` reads it back. An `Edit` is one
of the ways in which a request changes.
-/

namespace TunTap

structure Request where
  field : NameField
  flags : Flags 16
deriving DecidableEq

namespace Request

/-- The request for a name and a flag word, of which the low 16 bits are kept. -/
def new (n : Name) (f : Flags 32) : Request := ⟨n.field, f.narrow⟩

def name (r : Request) : Name := .ofField r.field

/-- The request with another name field, whatever it holds. -/
def setField (r : Request) (f : NameField) : Request := { r with field := f }

/-- The request for the name that is in the field, with another flag word. -/
def rebuild (r : Request) (f : Flags 32) : Request := new r.name f

/-- The unused bytes. -/
def unused : List UInt8 := List.replicate 22 0

def labelled (r : Request) : Labelled :=
  let numbers (bs : List UInt8) := bracketed (bs.map fun b => Numeral.ofNat b.toNat)
  .byName "IfReq"
    [("name", numbers r.field.toList), ("flags", Numeral.ofInt r.flags.bits.toInt), ("_pad", numbers unused)]

/-- A change of a request. -/
inductive Edit where
  | setField (field : NameField)
  | rebuild (flags : Flags 32)
  /-- Back to the first request. -/
  | reset

/-- The request after an edit, where the first one was `r₀`. -/
def Edit.apply (r₀ r : Request) : Edit → Request
  | setField f => r.setField f
  | rebuild f => r.rebuild f
  | reset => r₀

/-- The requests after each of the edits. -/
def Edit.run (r₀ : Request) : Request → List Edit → List Request
  | _, [] => []
  | r, e :: es => e.apply r₀ r :: run r₀ (e.apply r₀ r) es

end Request

end TunTap
