import TunTap.Flags.Basic
import TunTap.Text.Labelled
import TunTap.Text.Quoted

/-!
# Devices

What a descriptor is to be bound to: a device that carries packets or frames, under a suggested name, with or without
a header before each packet (`Params`). `Flags.device` is the flag word that asks for it.
-/

namespace TunTap

inductive Mode where
  /-- Packets. -/
  | tun
  /-- Ethernet frames. -/
  | tap
deriving DecidableEq

def Mode.name : Mode → String
  | tun => "Tun"
  | tap => "Tap"

namespace Flags

variable {w : Nat}

def mode : Mode → Flags w
  | .tun => tun
  | .tap => tap

/-- The flags of a device; without packet information it has to be asked to leave it out. -/
def device (m : Mode) (packetInfo : Bool) : Flags w :=
  if packetInfo then mode m else mode m ||| noPacketInfo

/-- The device that a flag word stands for. -/
def device? (f : Flags w) : Option (Mode × Bool) :=
  [(.tun, false), (.tun, true), (.tap, false), (.tap, true)].find? fun d => f = device d.1 d.2

theorem device?_device (m : Mode) (packetInfo : Bool) :
    (device m packetInfo : Flags 16).device? = some (m, packetInfo) := by
  cases m <;> cases packetInfo <;> decide

end Flags

structure Params where
  /-- The name suggested; it is not checked here. -/
  name : String
  mode : Mode
  packetInfo : Bool
deriving DecidableEq

namespace Params

/-- A device for packets without packet information. -/
def tun (name : String) : Params := ⟨name, .tun, false⟩

def flags (p : Params) : Flags 32 := .device p.mode p.packetInfo

def labelled (p : Params) : Labelled :=
  .byName "DeviceParams"
    [("name", Quoted.quote p.name), ("mode", p.mode.name), ("packet_info", if p.packetInfo then "true" else "false")]

end Params

end TunTap
