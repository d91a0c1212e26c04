/-!
# UTF-8 with replacement

`encode` writes characters as UTF-8. `decode` reads any bytes back: a byte string is cut into characters and maximal
ill-formed pieces, and every such piece becomes one replacement character. A piece ends before the first byte that no
character continuing the piece could have there, so the reader (`step`) never looks ahead: it keeps the character begun
(`Pending`) with the range that its next byte must lie in. The ranges after the lead bytes `E0`, `ED`, `F0` and `F4`
leave out overlong forms, surrogates and values above `10FFFF`.
-/

namespace TunTap.Utf8

/-- The bytes of the characters. -/
def encode (s : List Char) : List UInt8 := s.flatMap String.utf8EncodeChar

/-- Bytes that are the encoding of some characters. -/
def WellFormed (bs : List UInt8) : Prop := ∃ s, encode s = bs

/-- The character that stands for an ill-formed piece. -/
def replacement : Char := '\ufffd'

/-- A character begun: the bits read so far, how many bytes are owed after the next one, and the range of the next. -/
structure Pending where
  value : Nat
  owed : Nat
  low : UInt8
  high : UInt8
deriving DecidableEq

/-- The characters that the first byte of a piece completes, and the character that it begins. -/
def start (b : UInt8) : List Char × Option Pending :=
  if b < 0x80 then ([Char.ofNat b.toNat], none)
  else if b < 0xc2 then ([replacement], none)
  else if b < 0xe0 then ([], some ⟨b.toNat - 0xc0, 0, 0x80, 0xbf⟩)
  else if b < 0xf0 then
    ([], some ⟨b.toNat - 0xe0, 1, if b = 0xe0 then 0xa0 else 0x80, if b = 0xed then 0x9f else 0xbf⟩)
  else if b < 0xf5 then
    ([], some ⟨b.toNat - 0xf0, 2, if b = 0xf0 then 0x90 else 0x80, if b = 0xf4 then 0x8f else 0xbf⟩)
  else ([replacement], none)

/-- A byte in the range owed: it completes the character or leaves it pending. -/
def Pending.push (p : Pending) (b : UInt8) : List Char × Option Pending :=
  let value := p.value * 64 + (b.toNat - 0x80)
  match p.owed with
  | 0 => ([Char.ofNat value], none)
  | n + 1 => ([], some ⟨value, n, 0x80, 0xbf⟩)

/-- One byte: the characters it completes, and the character pending after it. A byte out of range ends the piece
begun and starts the next. -/
def step : Option Pending → UInt8 → List Char × Option Pending
  | none, b => start b
  | some p, b =>
    if p.low ≤ b ∧ b ≤ p.high then p.push b
    else (replacement :: (start b).1, (start b).2)

/-- The characters of the bytes after a character begun; one left unfinished at the end is ill-formed. -/
def decodeFrom : Option Pending → List UInt8 → List Char
  | none, [] => []
  | some _, [] => [replacement]
  | q, b :: bs => (step q b).1 ++ decodeFrom (step q b).2 bs

/-- The characters of the bytes, each maximal ill-formed piece replaced. -/
def decode (bs : List UInt8) : List Char := decodeFrom none bs

@[simp] theorem encode_nil : encode [] = [] := rfl

@[simp] theorem encode_append (s t : List Char) : encode (s ++ t) = encode s ++ encode t := by
  simp [encode]

example : decode [0x74, 0xe2, 0x82, 0xc3, 0xa9] = ['t', replacement, 'é'] := by decide
example : decode [0xed, 0xa0, 0x80] = [replacement, replacement, replacement] := by decide

end TunTap.Utf8
