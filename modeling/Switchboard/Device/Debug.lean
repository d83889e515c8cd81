import Switchboard.Device.Image
import Switchboard.Text.Hex

/-!
One-line texts that show every field of a device, or the cause and data of an image error.
-/
namespace Switchboard

/-- Known bits by name, then the others as one number; a byte without bits says so. -/
def Flags.debugText (flags : Flags) : String :=
  let others := flags.bits &&& 0xfe
  let number := "0x" ++ String.ofList (Hex.digits others.toNat)
  match flags.activeLow, others == 0 with
  | false, true => "(empty)"
  | true, true => "ACTIVE_LOW"
  | true, false => "ACTIVE_LOW | " ++ number
  | false, false => number

def Device.debugText (device : Device) : String :=
  "DeviceDescriptor \x7b kind: " ++ device.place.kind.name ++
    ", role: " ++ device.place.role.name ++
    ", index: " ++ toString device.place.index.toNat ++
    ", flags: " ++ device.flags.debugText ++
    ", handle: " ++ toString device.handle.toNat ++ " \x7d"

def ImageError.debugText : ImageError → String
  | .tooShort length => "TooShort \x7b len: " ++ toString length ++ " \x7d"
  | .trailingBytes length => "TrailingBytes \x7b len: " ++ toString length ++ " \x7d"
  | .unknownKind code => "UnknownKind(" ++ toString code.toNat ++ ")"
  | .unknownRole code => "UnknownRole(" ++ toString code.toNat ++ ")"

end Switchboard
