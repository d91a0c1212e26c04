import TunTap.Text.Numeral

/-!
# Flag words

The word that says what a device is to be. Three bits have a meaning: `tun`, `tap` and `noPacketInfo`. All others are
unknown: a word may hold them, and the operations treat them like the known ones (`all`), except `truncate` and the
complement, which cut them off. The operations work at any width, so that they can be compared with those of the
narrow word that a request holds (`narrow`).
-/

namespace TunTap

/-- A word of `w` flag bits. -/
structure Flags (w : Nat) where
  bits : BitVec w
deriving DecidableEq

namespace Flags

variable {w : Nat}

/-! ## Words -/

/-- Packets without Ethernet headers. -/
def tun : Flags w := ⟨0x1#w⟩

/-- Ethernet frames. -/
def tap : Flags w := ⟨0x2#w⟩

/-- Packets without the header that says their protocol. -/
def noPacketInfo : Flags w := ⟨0x1000#w⟩

def empty : Flags w := ⟨0#w⟩

instance : OrOp (Flags w) := ⟨fun f g => ⟨f.bits ||| g.bits⟩⟩

/-- The known flags. -/
def all : Flags w := tun ||| tap ||| noPacketInfo

/-! ## Operations -/

instance : AndOp (Flags w) := ⟨fun f g => ⟨f.bits &&& g.bits⟩⟩
instance : XorOp (Flags w) := ⟨fun f g => ⟨f.bits ^^^ g.bits⟩⟩

/-- The bits of the first word that the second does not have. -/
instance : Sub (Flags w) := ⟨fun f g => ⟨f.bits &&& ~~~g.bits⟩⟩

/-- The known bits of a word. -/
def truncate (f : Flags w) : Flags w := f &&& all

/-- The known bits that a word does not have. -/
instance : Complement (Flags w) := ⟨fun f => truncate ⟨~~~f.bits⟩⟩

/-- Each word added in turn. -/
def extend (f : Flags w) (gs : List (Flags w)) : Flags w := gs.foldl (· ||| ·) f

/-- The words taken together. -/
def ofList (gs : List (Flags w)) : Flags w := empty.extend gs

/-- A word of known bits, or nothing if there is an unknown one. -/
def ofBits? (bits : BitVec w) : Option (Flags w) :=
  if (⟨bits⟩ : Flags w) - all = empty then some ⟨bits⟩ else none

/-- The low 16 bits. -/
def narrow (f : Flags w) : Flags 16 := ⟨f.bits.setWidth 16⟩

/-! ## Questions -/

def isEmpty (f : Flags w) : Bool := f = empty

/-- Every bit of the second word is in the first. -/
def contains (f g : Flags w) : Bool := f &&& g = g

/-- Some bit is in both words. -/
def intersects (f g : Flags w) : Bool := !(f &&& g).isEmpty

/-- Every known flag is set; unknown bits do not matter. -/
def isAll (f : Flags w) : Bool := f.contains all

/-- Words in the order of the signed numbers that they write. -/
instance : Ord (Flags w) := ⟨fun f g => compare f.bits.toInt g.bits.toInt⟩

/-! ## Texts -/

def binary (f : Flags w) : String := Numeral.inBase 2 f.bits.toNat

def octal (f : Flags w) : String := Numeral.inBase 8 f.bits.toNat

/-- The shortest hexadecimal numeral. -/
def hex (f : Flags w) : String := "0x" ++ Numeral.inBase 16 f.bits.toNat

/-- The hexadecimal numeral with a digit for every four bits. -/
def paddedHex (f : Flags w) : String := "0x" ++ Numeral.hex (w / 4) f.bits.toNat

/-- As `paddedHex`, with upper case digits. -/
def upperHex (f : Flags w) : String := "0x" ++ (Numeral.hex (w / 4) f.bits.toNat).map Char.toUpper

/-- The known flags with their names, in the order in which they are named. -/
def named : List (Flags w × String) :=
  [(tun, "IFF_TUN"), (tap, "IFF_TAP"), (noPacketInfo, "IFF_NO_PI")]

/-- The names of the known flags set, and the unknown bits as a number. -/
def describe (f : Flags w) : String :=
  if f.isEmpty then "(empty)"
  else
    let names := (named.filter fun flag => f.contains flag.1).map (·.2)
    let unknown := f - all
    " | ".intercalate (names ++ if unknown.isEmpty then [] else [unknown.hex])

end Flags

end TunTap
