import Switchboard.Call.Error
import Switchboard.Call.Number
import Switchboard.Log.Level
import Switchboard.Text.Hex

/-!
What a machine reports about itself while it works. A notice is data; its level and wording are
decided here and nowhere else.
-/
namespace Switchboard

inductive Notice where
  | boardInstalled
  | boardCleared
  | bankInstalled
  | bankCleared
  | registeringLed
  | registeringCapability
  | registered (number : CallNumber)
  | replaced (number : CallNumber)
  | callFailed (number : CallNumber) (error : CallError)
  | ledFailed (number : CallNumber) (arguments : Arguments) (error : CallError)
  deriving DecidableEq

namespace Notice

def level : Notice → Level
  | boardInstalled => .trace
  | boardCleared => .trace
  | bankInstalled => .debug
  | bankCleared => .debug
  | registeringLed => .debug
  | registeringCapability => .debug
  | registered _ => .debug
  | replaced _ => .debug
  | callFailed _ _ => .trace
  | ledFailed _ _ _ => .trace

def text : Notice → String
  | boardInstalled => "DDT provider installed."
  | boardCleared => "DDT provider cleared."
  | bankInstalled => "LED HAL installed."
  | bankCleared => "LED HAL cleared."
  | registeringLed => "Registering LED SYS handlers..."
  | registeringCapability => "Registering capability SYS handlers..."
  | registered number => "Registered SYS handler " ++ Hex.word number ++ "."
  | replaced number => "Replaced SYS handler " ++ Hex.word number ++ "."
  | callFailed number error => "SYS " ++ Hex.word number ++ ": " ++ error.message ++ "."
  | ledFailed number arguments error =>
    "LED SYS " ++ Hex.word number ++ " (" ++ toString arguments.first.toInt ++ ", " ++
      toString arguments.second.toInt ++ ", " ++ Hex.pattern arguments.third ++ ") failed: " ++
      error.message ++ "."

/-- The line that shows a notice. -/
def line (notice : Notice) : String := notice.level.name ++ " " ++ notice.text

end Notice

end Switchboard
