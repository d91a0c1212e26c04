import TunTap.Text.Labelled
import TunTap.Text.Numeral
import TunTap.Text.Quoted
import TunTap.Text.Utf8

/-!
# Interface names

The kernel keeps the name of an interface in a field of 16 bytes. A name is at most 15 bytes, none of them nul, with
nul bytes after them up to the end of the field. `Name.ofString` checks a text and writes it so; `Name.ofField` reads
any field that the kernel left behind. What counts of a field is its stem: the bytes before the first nul, cut to 15
(`NameField.stem`).
-/

namespace TunTap

/-- Why a text is no name. -/
inductive NameError where
  | tooLong (length : Nat)
  | containsNul
deriving DecidableEq

def NameError.message : NameError → String
  | tooLong n => "Interface name is " ++ Numeral.ofNat n ++ " bytes long, at most 15 are allowed"
  | containsNul => "Interface name contains a nul byte"

/-- The size of a name field. -/
abbrev nameSize : Nat := 16

/-- The bytes of a name field. -/
abbrev NameField := Vector UInt8 nameSize

namespace NameField

/-- The bytes, and nul bytes up to the end; bytes past the end are dropped. -/
def ofBytes (bs : List UInt8) : NameField := Vector.ofFn fun i => bs.getD i 0

/-- The bytes before the first nul, at most 15. -/
def stem (f : NameField) : List UInt8 := (f.toList.take (nameSize - 1)).takeWhile (· ≠ 0)

theorem ofBytes_toList (f : NameField) : ofBytes f.toList = f := by
  ext i
  simp [ofBytes]

theorem toList_ofBytes {bs : List UInt8} (h : bs.length ≤ nameSize) :
    (ofBytes bs).toList = bs ++ List.replicate (nameSize - bs.length) 0 := by
  refine List.ext_getElem (by simp; omega) fun i _ _ => ?_
  simp only [ofBytes, Vector.getElem_toList, Vector.getElem_ofFn]
  grind

end NameField

/-- The name of an interface, as a field. -/
structure Name where
  field : NameField
deriving DecidableEq

namespace Name

/-- The name with these bytes, which have to be few enough and not nul. -/
def ofBytes (bs : List UInt8) : Name := ⟨.ofBytes bs⟩

/-- The empty name lets the kernel choose one. -/
def empty : Name := ofBytes []

/-- The name with this text. -/
def ofString (s : String) : Except NameError Name :=
  let bs := Utf8.encode s.toList
  if nameSize ≤ bs.length then .error (.tooLong bs.length)
  else if 0 ∈ bs then .error .containsNul
  else .ok (ofBytes bs)

/-- The ways to hand over the text of a name. -/
inductive Handover where
  /-- The text stays with its owner. -/
  | lent
  | given
  | parsed
  | converted
deriving DecidableEq

/-- The name with a text handed over in one of these ways; parsing and conversion have no rules of their own. -/
def ofText : Handover → String → Except NameError Name
  | .lent, s | .given, s => ofString s
  | .parsed, s => ofString s
  | .converted, s => ofString s

/-- The name that a field holds. -/
def ofField (f : NameField) : Name := ofBytes f.stem

def bytes (n : Name) : List UInt8 := n.field.stem

def length (n : Name) : Nat := n.bytes.length

def isEmpty (n : Name) : Bool := n.field[0] = 0

/-- The bytes read as text. -/
def text (n : Name) : String := String.ofList (Utf8.decode n.bytes)

def labelled (n : Name) : Labelled := .byPosition "IfName" [Quoted.quote n.text]

/-- Where the name first stands among entries that need not all be names. -/
def firstIndex (entries : List (Option Name)) (n : Name) : Option Nat := entries.findIdx? (· = some n)

end Name

end TunTap
