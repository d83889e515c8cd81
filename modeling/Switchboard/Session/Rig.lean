import Switchboard.Led.Drive
import Switchboard.Session.Machine

/-!
A rig is all machines and pin banks of a session, named by their position, and the filter that is
set for all of them. Work on a rig yields a turn: the new rig, an answer, and everything that can be
observed from outside meanwhile, calls to banks and written notices alike, in the order in which it
happened.
-/
namespace Switchboard

structure Rig where
  machines : List Machine
  banks : List PinBank
  /-- Decides about every notice at the place where it is made. Without one, none is written. -/
  filter : Option Filter
  deriving DecidableEq

inductive Effect where
  | pin (bank : Nat) (call : PinCall)
  | notice (notice : Notice)
  deriving DecidableEq

structure Turn (α : Type) where
  rig : Rig
  answer : α
  effects : List Effect
  deriving DecidableEq

namespace Rig

def putMachine (rig : Rig) (position : Nat) (machine : Machine) : Rig :=
  { rig with machines := rig.machines.set position machine }

def putBank (rig : Rig) (position : Nat) (bank : PinBank) : Rig :=
  { rig with banks := rig.banks.set position bank }

/-- What is written of some notices. -/
def write (rig : Rig) (noted : List Notice) : List Effect :=
  (noted.filter fun notice => notice.level.passes rig.filter).map .notice

/-- The bank that a machine points at, with its number. -/
def bankOf? (rig : Rig) (machine : Machine) : Option (Nat × PinBank) := do
  let position ← machine.bank
  let bank ← rig.banks[position]?
  return (position, bank)

/-- The devices of a machine, none if there is no such machine. -/
def devices (rig : Rig) (machine : Nat) : Board :=
  match rig.machines[machine]? with
  | none => []
  | some owner => owner.devices

/-- The entry under a number in a machine's registry. -/
def lookup (rig : Rig) (machine : Nat) (number : CallNumber) : Option Entry := do
  let machine ← rig.machines[machine]?
  machine.registry.get? number

/-- The size of a machine's registry. -/
def registered (rig : Rig) (machine : Nat) : Nat :=
  match rig.machines[machine]? with
  | none => 0
  | some machine => machine.registry.size

/-- Runs an LED command on a machine's board and bank. The bank is asked for before the target is
looked at. -/
def led (rig : Rig) (machine : Nat) (command : Led.Command) : Turn (Except CallError Bool) :=
  match rig.machines[machine]? with
  | none => ⟨rig, .error .noBank, []⟩
  | some owner =>
    match rig.bankOf? owner with
    | none => ⟨rig, .error .noBank, []⟩
    | some (position, bank) =>
      match command.perform bank owner.devices with
      | .error error => ⟨rig, .error error, []⟩
      | .ok motion =>
        ⟨rig.putBank position motion.bank, .ok motion.answer, motion.calls.map (.pin position)⟩

end Rig

end Switchboard
