import Switchboard.Capability
import Switchboard.Led.Command

/-!
What can answer a call. A standard handler remembers the machine whose board and bank it works
on, not what that machine held when the handler was installed. Custom routines stand on their own.
-/
namespace Switchboard

/-- Handlers that only look at their call, or only count how often they ran. -/
inductive Routine where
  | constant (value : Int32)
  /-- The call number and the arguments, added up with wrap-around. -/
  | sum
  | number
  | first
  | second
  | third
  /-- Answers 1, 2, 3 and so on, once for each run. -/
  | counter
  deriving DecidableEq

inductive Handler where
  | led (operation : Led.Operation) (owner : Nat)
  | capability (query : Capability.Query) (owner : Nat)
  | version
  /-- The platform as it was told at installation. -/
  | platform (id : Int32)
  | custom (routine : Routine)
  deriving DecidableEq

namespace Routine

/-- The answer of the run that comes after `runs` others. -/
def answer (routine : Routine) (runs : Nat) (number : CallNumber) (arguments : Arguments) :
    Int32 :=
  match routine with
  | constant value => value
  | sum =>
    Int32.ofNat number.toNat + arguments.first + arguments.second + arguments.third
  | .number => Int32.ofNat number.toNat
  | first => arguments.first
  | second => arguments.second
  | third => arguments.third
  | counter => Int32.ofNat (runs + 1)

end Routine

namespace Handler

/-- The handlers that light the LEDs of `owner`, in order of installation. -/
def ledSet (owner : Nat) : List (CallNumber × Handler) :=
  Led.Operation.all.map fun operation => (operation.number, led operation owner)

/-- The handlers that describe the board of `owner` and the platform, in order of installation. -/
def capabilitySet (owner : Nat) (id : Int32) : List (CallNumber × Handler) :=
  Capability.Query.all.map (fun query => (query.number, capability query owner)) ++
    [(.sysVersion, version), (.sysPlatform, platform id)]

end Handler

end Switchboard
