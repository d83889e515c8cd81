/-!
The kinds and roles of devices, each with its one-byte code. Codes are dense from zero, so a list
in code order is all that reading a code needs.
-/
namespace Switchboard

/-- What a device is, in code order. -/
inductive Kind where
  | unset
  | led
  | button
  | buzzer
  | timer
  | uart
  | i2c
  | spi
  | adc
  | pwm
  | storage
  | display
  | rng
  deriving DecidableEq

/-- What a device is for, telling devices of one kind apart, in code order. -/
inductive Role where
  | unset
  | status
  | user
  | power
  | console
  | debug
  deriving DecidableEq

/-- A code that stands for no kind or no role. -/
inductive UnknownCode where
  | kind (code : UInt8)
  | role (code : UInt8)
  deriving DecidableEq

namespace Kind

def all : List Kind :=
  [unset, led, button, buzzer, timer, uart, i2c, spi, adc, pwm, storage, display, rng]

def code : Kind → UInt8
  | unset => 0
  | led => 1
  | button => 2
  | buzzer => 3
  | timer => 4
  | uart => 5
  | i2c => 6
  | spi => 7
  | adc => 8
  | pwm => 9
  | storage => 10
  | display => 11
  | rng => 12

def name : Kind → String
  | unset => "None"
  | led => "Led"
  | button => "Button"
  | buzzer => "Buzzer"
  | timer => "Timer"
  | uart => "Uart"
  | i2c => "I2c"
  | spi => "Spi"
  | adc => "Adc"
  | pwm => "Pwm"
  | storage => "Storage"
  | display => "Display"
  | rng => "Rng"

def ofCode? (code : UInt8) : Option Kind := all[code.toNat]?

def ofCode (code : UInt8) : Except UnknownCode Kind :=
  match ofCode? code with
  | some kind => .ok kind
  | none => .error (.kind code)

/-- A call argument names a kind only by its exact code; nothing is cut off. -/
def ofArgument? (argument : Int32) : Option Kind :=
  if argument < 0 then none else all[argument.toNatClampNeg]?

end Kind

namespace Role

def all : List Role := [unset, status, user, power, console, debug]

def code : Role → UInt8
  | unset => 0
  | status => 1
  | user => 2
  | power => 3
  | console => 4
  | debug => 5

def name : Role → String
  | unset => "None"
  | status => "Status"
  | user => "User"
  | power => "Power"
  | console => "Console"
  | debug => "Debug"

def ofCode? (code : UInt8) : Option Role := all[code.toNat]?

def ofCode (code : UInt8) : Except UnknownCode Role :=
  match ofCode? code with
  | some role => .ok role
  | none => .error (.role code)

/-- A call argument names a role only by its exact code; nothing is cut off. -/
def ofArgument? (argument : Int32) : Option Role :=
  if argument < 0 then none else all[argument.toNatClampNeg]?

end Role

def UnknownCode.message : UnknownCode → String
  | .kind code => s!"No discriminant in enum `DeviceKind` matches the value `{code.toNat}`"
  | .role code => s!"No discriminant in enum `DeviceRole` matches the value `{code.toNat}`"

end Switchboard
