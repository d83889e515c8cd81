/-!
Why a call has no answer, with its wording and the number that stands for it where only a number
can be returned.
-/
namespace Switchboard

inductive CallError where
  /-- Nothing is installed under the call number. -/
  | noHandler
  /-- No device of the board sits at the place, or there is no board. -/
  | deviceNotFound
  /-- The place holds a kind that the call does not drive. -/
  | wrongKind
  /-- There is no pin bank behind the call. -/
  | noBank
  deriving DecidableEq

namespace CallError

def message : CallError → String
  | noHandler => "no handler registered"
  | deviceNotFound => "device not found"
  | wrongKind => "wrong device kind"
  | noBank => "no HAL installed"

/-- Failures inside a handler look alike to its caller. -/
def code : CallError → Int32
  | noHandler => -1
  | deviceNotFound => 0
  | wrongKind => 0
  | noBank => 0

end CallError

end Switchboard
