import Switchboard.Device.Kind

/-!
A device sits at a place (kind, role, index) and carries a flag byte and a handle that only the
platform understands. Places are unique by convention only; nothing here enforces it.
-/
namespace Switchboard

/-- Configuration bits. Bit 0 is known; the others are carried along untouched. -/
structure Flags where
  bits : UInt8
  deriving DecidableEq

namespace Flags

/-- A low signal means that the device is on. -/
def activeLow (flags : Flags) : Bool := flags.bits.toNat.testBit 0

/-- Drops every bit that has no meaning yet. -/
def known (bits : UInt8) : Flags := ⟨bits &&& 1⟩

end Flags

/-- Where a device sits. -/
structure Place where
  kind : Kind
  role : Role
  index : UInt8
  deriving DecidableEq

namespace Place

/-- The kind is judged before the role. -/
def ofCodes (kind role index : UInt8) : Except UnknownCode Place := do
  let kind ← Kind.ofCode kind
  let role ← Role.ofCode role
  return ⟨kind, role, index⟩

/-- Only the low byte of an index argument counts: 256 is index 0 and -1 is index 255. -/
def ofArguments? (kind role index : Int32) : Option Place := do
  let kind ← Kind.ofArgument? kind
  let role ← Role.ofArgument? role
  return ⟨kind, role, UInt8.ofInt index.toInt⟩

end Place

structure Device where
  place : Place
  flags : Flags
  /-- A pin number, a bus number or whatever else the platform counts. -/
  handle : UInt32
  deriving DecidableEq

namespace Device

def activeLow (device : Device) : Bool := device.flags.activeLow

def sitsAt (device : Device) (place : Place) : Bool := device.place == place

end Device

end Switchboard
