import Switchboard.Device.Board

/-!
The byte form of devices and boards. A record is eight bytes: kind, role, index, flags and the
handle with its low byte first. An image is a row of records and nothing else.
-/
namespace Switchboard

/-- Why bytes do not hold a device or a board. -/
inductive ImageError where
  | tooShort (length : Nat)
  | trailingBytes (length : Nat)
  | unknownKind (code : UInt8)
  | unknownRole (code : UInt8)
  deriving DecidableEq

namespace ImageError

def message : ImageError → String
  | tooShort length => s!"descriptor needs 8 bytes, got {length}"
  | trailingBytes length => s!"table image of {length} bytes is not a multiple of 8"
  | unknownKind code => s!"unknown device kind {code.toNat}"
  | unknownRole code => s!"unknown device role {code.toNat}"

end ImageError

namespace Device

def recordSize : Nat := 8

def encode (device : Device) : List UInt8 :=
  let handle := device.handle.toNat
  [device.place.kind.code, device.place.role.code, device.place.index, device.flags.bits,
    UInt8.ofNat handle, UInt8.ofNat (handle / 256), UInt8.ofNat (handle / 65536),
    UInt8.ofNat (handle / 16777216)]

/-- Reads the eight bytes of one record. The kind is judged before the role. -/
def ofRecord (kind role index flags h0 h1 h2 h3 : UInt8) : Except ImageError Device :=
  match Kind.ofCode? kind, Role.ofCode? role with
  | none, _ => .error (.unknownKind kind)
  | some _, none => .error (.unknownRole role)
  | some kind, some role => .ok
    { place := ⟨kind, role, index⟩
      flags := ⟨flags⟩
      handle := UInt32.ofNat
        (h0.toNat + 256 * h1.toNat + 65536 * h2.toNat + 16777216 * h3.toNat) }

/-- Reads the first record of `bytes`; what follows it is ignored. -/
def decode (bytes : List UInt8) : Except ImageError Device :=
  match bytes with
  | b0 :: b1 :: b2 :: b3 :: b4 :: b5 :: b6 :: b7 :: _ => ofRecord b0 b1 b2 b3 b4 b5 b6 b7
  | _ => .error (.tooShort bytes.length)

end Device

namespace Board

def encode (board : Board) : List UInt8 := board.flatMap Device.encode

/-- Reads record after record and stops at the first bad one. -/
def ofRecords : List UInt8 → Except ImageError Board
  | b0 :: b1 :: b2 :: b3 :: b4 :: b5 :: b6 :: b7 :: rest => do
    let device ← Device.ofRecord b0 b1 b2 b3 b4 b5 b6 b7
    let board ← ofRecords rest
    return device :: board
  | _ => .ok []

/-- The length of an image is judged before its contents. -/
def decode (bytes : List UInt8) : Except ImageError Board :=
  if bytes.length % Device.recordSize = 0 then ofRecords bytes
  else .error (.trailingBytes bytes.length)

end Board

end Switchboard
