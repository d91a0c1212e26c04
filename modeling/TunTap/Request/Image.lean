import TunTap.Device
import TunTap.Request.Basic

/-!
# Images of requests

The bytes of a request in memory (`image`): the name field, the flag word with its low byte first, and the unused
bytes. `ofImage?` reads an image, and `Params.ofRequest?` the device that a request asks for.
-/

namespace TunTap

/-- The two bytes of a word, the low one first. -/
def Flags.toBytes (f : Flags 16) : List UInt8 :=
  [.ofBitVec (f.bits.extractLsb' 0 8), .ofBitVec (f.bits.extractLsb' 8 8)]

/-- The word with these bytes. -/
def Flags.ofBytes (low high : UInt8) : Flags 16 := ⟨high.toBitVec ++ low.toBitVec⟩

theorem Flags.ofBytes_extract (f : Flags 16) :
    Flags.ofBytes (.ofBitVec (f.bits.extractLsb' 0 8)) (.ofBitVec (f.bits.extractLsb' 8 8)) = f := by
  refine congrArg Flags.mk (BitVec.eq_of_getLsbD_eq fun i hi => ?_)
  simp only [BitVec.getLsbD_append, BitVec.getLsbD_extractLsb']
  grind

namespace Request

/-- The size of an image. -/
def size : Nat := 40

/-- The address of a request is a multiple of this. -/
def alignment : Nat := 8

def image (r : Request) : List UInt8 := r.field.toList ++ r.flags.toBytes ++ unused

/-- The request with this image. -/
def ofImage? (bs : List UInt8) : Option Request :=
  match bs.drop nameSize with
  | low :: high :: rest =>
    if rest = unused then some ⟨.ofBytes (bs.take nameSize), .ofBytes low high⟩ else none
  | _ => none

theorem length_image (r : Request) : r.image.length = size := by
  simp [image, Flags.toBytes, unused, size]

theorem ofImage?_image (r : Request) : ofImage? r.image = some r := by
  have hf : r.image.take nameSize = r.field.toList := by simp [image]
  have hr : r.image.drop nameSize = r.flags.toBytes ++ unused := by simp [image]
  simp [ofImage?, hf, hr, Flags.toBytes, NameField.ofBytes_toList, Flags.ofBytes_extract]

end Request

/-- The device that a request asks for. -/
def Params.ofRequest? (r : Request) : Option Params :=
  r.flags.device?.map fun d => ⟨r.name.text, d.1, d.2⟩

end TunTap
