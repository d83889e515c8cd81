import Switchboard.Call.Number
import Switchboard.Device.Board

/-!
Capability queries: what a board holds, asked by number. A miss is 0 where the answer counts and
-1 where 0 would be a flag byte or a handle like any other.
-/
namespace Switchboard.Capability

inductive Query where
  | count
  | present
  | flags
  | handle
  deriving DecidableEq

namespace Query

/-- In the order in which they are installed. -/
def all : List Query := [count, present, flags, handle]

def number : Query → CallNumber
  | count => .capCount
  | present => .capExists
  | flags => .capFlags
  | handle => .capHandle

/-- Counting looks at the first argument alone. A handle is given as the number with its bits. -/
def answer (query : Query) (board : Board) (arguments : Arguments) : Int32 :=
  let device := board.findByArguments? arguments.first arguments.second arguments.third
  match query with
  | count =>
    match Kind.ofArgument? arguments.first with
    | some kind => Int32.ofNat (board.count kind)
    | none => 0
  | present => if device.isSome then 1 else 0
  | flags =>
    match device with
    | some device => Int32.ofNat device.flags.bits.toNat
    | none => -1
  | handle =>
    match device with
    | some device => Int32.ofNat device.handle.toNat
    | none => -1

end Query

/-- Major, minor and patch number, a byte each. -/
def version : Int32 := Int32.ofNat (0 * 65536 + 1 * 256 + 0)

end Switchboard.Capability
