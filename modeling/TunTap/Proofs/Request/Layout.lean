import TunTap.Configure
import TunTap.Proofs.Name.Basic

/-!
# The layout of an image

The image of a request shows the parameters that it was made for (`Params.Layout`): the bytes of the name and nul
bytes after them, the flag word with its low byte first, and nul bytes up to the end (`layout_image`). It can be read
back (`Params.ofImage?`), which gives the parameters again (`ofImage?_image_new`).
-/

namespace TunTap

/-- The number with these bytes, the low one first. -/
def littleEndian : List UInt8 → Nat
  | [] => 0
  | b :: bs => b.toNat + 256 * littleEndian bs

/-- The bytes that ask for a device: bit 0 of the flag word stands for a TUN device, bit 1 for a TAP device and bit 12
for no packet information. -/
structure Params.Layout (p : Params) (bs : List UInt8) : Prop where
  length : bs.length = 40
  name : bs.take 16 =
    Utf8.encode p.name.toList ++ List.replicate (16 - (Utf8.encode p.name.toList).length) 0
  terminated : bs[15]? = some 0
  flags : ∀ i, (littleEndian ((bs.drop 16).take 2)).testBit i = true ↔
    i = 0 ∧ p.mode = .tun ∨ i = 1 ∧ p.mode = .tap ∨ i = 12 ∧ p.packetInfo = false
  unused : bs.drop 18 = List.replicate 22 0

/-- The device that an image asks for. -/
def Params.ofImage? (bs : List UInt8) : Option Params := (Request.ofImage? bs).bind Params.ofRequest?

/-! ## Flag words -/

namespace Flags

theorem littleEndian_toBytes (f : Flags 16) : littleEndian f.toBytes = f.bits.toNat := by
  have h := f.bits.isLt
  simp [littleEndian, toBytes, BitVec.extractLsb'_toNat]
  omega

/-- Devices have the same flags in the narrow word. -/
theorem narrow_device (m : Mode) (packetInfo : Bool) : (device m packetInfo : Flags 32).narrow = device m packetInfo := by
  cases m <;> cases packetInfo <;> decide

/-- The bits of a device. -/
theorem testBit_device (m : Mode) (packetInfo : Bool) (i : Nat) :
    (device m packetInfo : Flags 16).bits.toNat.testBit i = true ↔
      i = 0 ∧ m = .tun ∨ i = 1 ∧ m = .tap ∨ i = 12 ∧ packetInfo = false := by
  by_cases hi : i < 16
  · revert i
    cases m <;> cases packetInfo <;> decide
  · have hlt : (device m packetInfo : Flags 16).bits.toNat < 2 ^ i :=
      Nat.lt_of_lt_of_le (BitVec.isLt _) (Nat.pow_le_pow_right (by decide) (Nat.not_lt.1 hi))
    rw [Nat.testBit_lt_two_pow hlt]
    constructor
    · intro h; cases h
    · rintro (⟨rfl, -⟩ | ⟨rfl, -⟩ | ⟨rfl, -⟩) <;> exact absurd (by decide) hi

end Flags

/-! ## Images -/

section Image

variable {p : Params} {n : Name}

theorem take_image (r : Request) : r.image.take 16 = r.field.toList := by
  simp [Request.image]

theorem drop_image (r : Request) : r.image.drop 16 = r.flags.toBytes ++ Request.unused := by
  simp [Request.image]

/-- The end of an image. -/
theorem drop_image_unused (r : Request) : r.image.drop 18 = List.replicate 22 0 := by
  rw [← List.drop_drop (i := 2) (j := 16), drop_image]
  rfl

/-- The flag word in an image. -/
theorem littleEndian_image (r : Request) : littleEndian ((r.image.drop 16).take 2) = r.flags.bits.toNat := by
  have ht : (r.flags.toBytes ++ Request.unused).take 2 = r.flags.toBytes := rfl
  rw [drop_image, ht, Flags.littleEndian_toBytes]

/-- The name in an image, and nul bytes after it. -/
theorem take_image_new (h : Name.ofString p.name = .ok n) (f : Flags 32) :
    (Request.new n f).image.take 16 =
      Utf8.encode p.name.toList ++ List.replicate (16 - (Utf8.encode p.name.toList).length) 0 := by
  rw [take_image]
  exact Name.toList_field_ofString h

/-- There is room for a nul byte at least. -/
theorem getElem?_image_new (h : Name.ofString p.name = .ok n) (f : Flags 32) :
    (Request.new n f).image[15]? = some 0 := by
  have hl : (Utf8.encode p.name.toList).length < 16 := (Name.ofString_eq_ok_iff.1 h).1.1
  rw [← List.getElem?_take_of_lt (show 15 < 16 by decide), take_image_new h, List.getElem?_append_right (by omega),
    List.getElem?_replicate, if_pos (by omega)]

/-- **The layout of an image.** -/
theorem layout_image (h : Name.ofString p.name = .ok n) : p.Layout (Request.new n p.flags).image where
  length := Request.length_image _
  name := take_image_new h _
  terminated := getElem?_image_new h _
  flags := by
    intro i
    rw [littleEndian_image, Request.new, Params.flags, Flags.narrow_device, Flags.testBit_device]
  unused := drop_image_unused _

/-- The image of a request for a device asks for that device. -/
theorem ofImage?_image_new (h : Name.ofString p.name = .ok n) :
    Params.ofImage? (Request.new n p.flags).image = some p := by
  have hd : (Request.new n p.flags).flags.device? = some (p.mode, p.packetInfo) := by
    show p.flags.narrow.device? = _
    rw [Params.flags, Flags.narrow_device, Flags.device?_device]
  have hn : (Request.new n p.flags).name.text = p.name := by
    show (Name.ofField n.field).text = _
    rw [(Name.canonical_ofString h).ofField_field, Name.text_ofString h]
  rw [Params.ofImage?, Request.ofImage?_image, Option.bind_some, Params.ofRequest?, hd, Option.map_some, hn]

/-- Requests for two devices have one image only if the devices are the same. -/
theorem image_new_injective {q : Params} {m : Name} (hp : Name.ofString p.name = .ok n)
    (hq : Name.ofString q.name = .ok m) (h : (Request.new n p.flags).image = (Request.new m q.flags).image) :
    p = q := by
  have hd := ofImage?_image_new hp
  rw [h, ofImage?_image_new hq] at hd
  exact (Option.some.inj hd).symm

end Image

end TunTap
