import Switchboard.Call.Error
import Switchboard.Device.Board
import Switchboard.Led.Command
import Switchboard.PinBank

/-!
Running an LED command: the target is located on the board, then the bank is asked once, or twice
for a toggle. A command whose target is not there asks nothing.
-/
namespace Switchboard.Led

/-- The device that a target means. The kind is judged before the board is searched. -/
def locate (board : Board) (target : Target) : Except CallError Device :=
  if Kind.ofArgument? target.kind = some .led then
    match board.findByArguments? target.kind target.role target.index with
    | none => .error .deviceNotFound
    | some device => .ok device
  else .error .wrongKind

/-- What came of asking a bank: its new state, the questions in order, and the last answer. -/
structure Motion where
  bank : PinBank
  calls : List PinCall
  answer : Bool
  deriving DecidableEq

namespace Motion

def write (bank : PinBank) (device : Device) (state : Bool) : Motion :=
  let accepted := bank.accepts device.handle
  { bank := bank.write device.handle state device.activeLow
    calls := [.write device.handle state device.activeLow accepted]
    answer := accepted }

def read (bank : PinBank) (device : Device) : Motion :=
  let state := bank.read device.handle device.activeLow
  { bank := bank
    calls := [.read device.handle device.activeLow state]
    answer := state }

/-- Writes the opposite of what is read. -/
def toggle (bank : PinBank) (device : Device) : Motion :=
  let seen := read bank device
  let written := write bank device (!seen.answer)
  { written with calls := seen.calls ++ written.calls }

end Motion

def Action.perform (action : Action) (bank : PinBank) (device : Device) : Motion :=
  match action with
  | .write state => Motion.write bank device state
  | .toggle => Motion.toggle bank device
  | .read => Motion.read bank device

def Command.perform (command : Command) (bank : PinBank) (board : Board) :
    Except CallError Motion := do
  let device ← locate board command.target
  return command.action.perform bank device

end Switchboard.Led
