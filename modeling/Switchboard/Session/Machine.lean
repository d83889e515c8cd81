import Switchboard.Device.Image
import Switchboard.Registry.Basic

/-!
A machine holds a board, points at a pin bank by number, and answers calls through its registry.
Everything here concerns one machine alone; handlers that work on other machines only name them.
-/
namespace Switchboard

structure Machine where
  /-- Present on a machine that was assembled as a whole and so knows its platform. -/
  platform : Option Int32 := none
  board : Option Board := none
  bank : Option Nat := none
  registry : Registry := .empty
  /-- How many installations the machine has made. -/
  issued : Nat := 0
  /-- How often each counting handler of the machine ran, by serial number. -/
  tallies : SortedMap Nat Nat := .empty
  deriving DecidableEq

namespace Machine

/-- A machine without a board has no devices. -/
def devices (machine : Machine) : Board := machine.board.getD []

/-- Replaces the board by the one in an image, or takes it away. A bad image changes nothing. -/
def setBoard (machine : Machine) (image : Option (List UInt8)) :
    Except ImageError (Machine × Notice) :=
  match image with
  | none => .ok ({ machine with board := none }, .boardCleared)
  | some bytes => do
    let board ← Board.decode bytes
    return ({ machine with board := some board }, .boardInstalled)

def setBank (machine : Machine) (bank : Option Nat) : Machine × Notice :=
  ({ machine with bank := bank }, if bank.isSome then .bankInstalled else .bankCleared)

/-- Puts an entry into the registry, over an older one with the same number. -/
def place (machine : Machine) (number : CallNumber) (entry : Entry) : Machine :=
  { machine with registry := machine.registry.insert number entry }

/-- Installs a handler as machine number `self`; the entry is unlike any other. -/
def install (machine : Machine) (self : Nat) (number : CallNumber) (handler : Handler) : Machine :=
  { machine.place number ⟨⟨self, machine.issued⟩, handler⟩ with issued := machine.issued + 1 }

/-- Installs handlers one after the other, reporting each. -/
def installAll (machine : Machine) (self : Nat) :
    List (CallNumber × Handler) → Machine × List Notice
  | [] => (machine, [])
  | (number, handler) :: rest =>
    let (after, notices) := (machine.install self number handler).installAll self rest
    (after, machine.registry.notice number :: notices)

/-- Installs the LED handlers of machine `source`. -/
def registerLed (machine : Machine) (self source : Nat) : Machine × List Notice :=
  let (after, notices) := machine.installAll self (Handler.ledSet source)
  (after, .registeringLed :: notices)

/-- Installs the capability handlers over the board of machine `source`. -/
def registerCapability (machine : Machine) (self source : Nat) (platform : Int32) :
    Machine × List Notice :=
  let (after, notices) := machine.installAll self (Handler.capabilitySet source platform)
  (after, .registeringCapability :: notices)

/-- Installs everything that a machine offers of its own. -/
def registerStandard (machine : Machine) (self : Nat) (platform : Int32) :
    Machine × List Notice :=
  let (lit, first) := machine.registerLed self self
  let (after, second) := lit.registerCapability self self platform
  (after, first ++ second)

def unregister (machine : Machine) (number : CallNumber) : Machine :=
  { machine with registry := machine.registry.erase number }

def clear (machine : Machine) : Machine := { machine with registry := .empty }

def runs (machine : Machine) (serial : Nat) : Nat := (machine.tallies.get? serial).getD 0

/-- Counts one more run of a handler. -/
def tally (machine : Machine) (serial : Nat) : Machine :=
  { machine with tallies := machine.tallies.insert serial (machine.runs serial + 1) }

end Machine

end Switchboard
