import Switchboard.Call.Number

/-!
The calls that have a fixed number and name. A number that is not listed has neither.
-/
namespace Switchboard

structure CallInfo where
  number : CallNumber
  name : String
  description : String
  deriving DecidableEq

namespace CallInfo

/-- The first entry of a table with this number. -/
def find? (table : List CallInfo) (number : CallNumber) : Option CallInfo :=
  List.find? (·.number == number) table

def standard : List CallInfo :=
  [
    ⟨0x0100, "LED_ON", "Turn LED on by kind/role/index"⟩,
    ⟨0x0101, "LED_OFF", "Turn LED off by kind/role/index"⟩,
    ⟨0x0102, "LED_TOGGLE", "Toggle LED state by kind/role/index"⟩,
    ⟨0x0103, "LED_SET", "Set LED state (0=off, 1=on) by kind/role/index"⟩,
    ⟨0x0110, "LED_GET", "Get LED state by kind/role/index"⟩,
    ⟨0x0200, "BUTTON_READ", "Read button state (0=released, 1=pressed)"⟩,
    ⟨0x0201, "BUTTON_WAIT", "Wait for button press with timeout"⟩,
    ⟨0x0300, "TIMER_START", "Start periodic timer"⟩,
    ⟨0x0301, "TIMER_STOP", "Stop timer"⟩,
    ⟨0x0302, "TIMER_ONESHOT", "Start one-shot timer"⟩,
    ⟨0x0310, "TIMER_RUNNING", "Query whether timer is running"⟩,
    ⟨0x0400, "UART_READ", "Read one byte from UART"⟩,
    ⟨0x0401, "UART_WRITE", "Write one byte to UART"⟩,
    ⟨0x0402, "UART_AVAILABLE", "Number of bytes available on UART"⟩,
    ⟨0x0500, "I2C_READ_REG", "Read I2C device register"⟩,
    ⟨0x0501, "I2C_WRITE_REG", "Write I2C device register"⟩,
    ⟨0x0600, "SPI_TRANSFER", "Full-duplex SPI byte transfer"⟩,
    ⟨0x0700, "ADC_READ", "Read ADC channel"⟩,
    ⟨0x0800, "PWM_SET", "Set PWM duty cycle"⟩,
    ⟨0x0801, "PWM_START", "Start PWM output"⟩,
    ⟨0x0802, "PWM_STOP", "Stop PWM output"⟩,
    ⟨0x0900, "STORAGE_READ", "Read value from key-value storage"⟩,
    ⟨0x0901, "STORAGE_WRITE", "Write value to key-value storage"⟩,
    ⟨0x0a00, "DISPLAY_PUTC", "Put character on display"⟩,
    ⟨0x0a01, "DISPLAY_CLEAR", "Clear display"⟩,
    ⟨0x0b00, "RNG_READ", "Read random 32-bit value"⟩,
    ⟨0x0f00, "CAP_COUNT", "Count devices of a kind"⟩,
    ⟨0x0f01, "CAP_EXISTS", "Check whether a device exists by kind/role/index"⟩,
    ⟨0x0f02, "CAP_FLAGS", "Get device flags by kind/role/index"⟩,
    ⟨0x0f03, "CAP_HANDLE", "Get device platform handle by kind/role/index"⟩,
    ⟨0x0ff0, "SYS_VERSION", "Get v4std version"⟩,
    ⟨0x0ff1, "SYS_PLATFORM", "Get platform identifier"⟩
  ]

end CallInfo

def CallNumber.info? (number : CallNumber) : Option CallInfo :=
  CallInfo.find? CallInfo.standard number

def CallNumber.name? (number : CallNumber) : Option String := number.info?.map (·.name)

end Switchboard
