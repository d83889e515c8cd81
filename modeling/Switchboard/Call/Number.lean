/-!
Calls are told apart by a 16-bit number. The high byte of a standard call is its category.
-/
namespace Switchboard

abbrev CallNumber := UInt16

/-- The three arguments that every call carries. -/
structure Arguments where
  first : Int32
  second : Int32
  third : Int32
  deriving DecidableEq

namespace CallNumber

def ledOn : CallNumber := 0x0100
def ledOff : CallNumber := 0x0101
def ledToggle : CallNumber := 0x0102
def ledSet : CallNumber := 0x0103
def ledGet : CallNumber := 0x0110
def buttonRead : CallNumber := 0x0200
def capCount : CallNumber := 0x0f00
def capExists : CallNumber := 0x0f01
def capFlags : CallNumber := 0x0f02
def capHandle : CallNumber := 0x0f03
def sysVersion : CallNumber := 0x0ff0
def sysPlatform : CallNumber := 0x0ff1

end CallNumber

/-- Families of calls in ascending order of their numbers. -/
inductive Category where
  | led
  | button
  | timer
  | uart
  | i2c
  | spi
  | adc
  | pwm
  | storage
  | display
  | rng
  | system
  deriving DecidableEq

namespace Category

def all : List Category :=
  [led, button, timer, uart, i2c, spi, adc, pwm, storage, display, rng, system]

def name : Category → String
  | led => "Led"
  | button => "Button"
  | timer => "Timer"
  | uart => "Uart"
  | i2c => "I2c"
  | spi => "Spi"
  | adc => "Adc"
  | pwm => "Pwm"
  | storage => "Storage"
  | display => "Display"
  | rng => "Rng"
  | system => "System"

/-- The high byte of every number in the category. -/
def page : Category → UInt8
  | led => 0x01
  | button => 0x02
  | timer => 0x03
  | uart => 0x04
  | i2c => 0x05
  | spi => 0x06
  | adc => 0x07
  | pwm => 0x08
  | storage => 0x09
  | display => 0x0a
  | rng => 0x0b
  | system => 0x0f

def first (category : Category) : CallNumber := UInt16.ofNat (category.page.toNat * 256)

def last (category : Category) : CallNumber := UInt16.ofNat (category.page.toNat * 256 + 255)

def ofNumber? (number : CallNumber) : Option Category :=
  all.find? fun category => category.page.toNat == number.toNat / 256

end Category

end Switchboard
