import Switchboard.Session.Rig

/-!
Calls on a rig: the entry under the number answers, working on whatever its owner holds at the
time of the call. Calls without an entry run nothing.
-/
namespace Switchboard.Rig

/-- An LED command that came in as a call: failures are reported and become a number. -/
def ledCall (rig : Rig) (machine : Nat) (operation : Led.Operation) (number : CallNumber)
    (arguments : Arguments) : Turn Int32 :=
  let turn := rig.led machine (operation.command arguments)
  match turn.answer with
  | .ok state => ⟨turn.rig, if state then 1 else 0, turn.effects⟩
  | .error error =>
    ⟨turn.rig, error.code, turn.effects ++ turn.rig.write [.ledFailed number arguments error]⟩

/-- Counts a run with the machine that installed the handler, and tells how many came before. -/
def tally (rig : Rig) (origin : Origin) : Turn Nat :=
  match rig.machines[origin.machine]? with
  | none => ⟨rig, 0, []⟩
  | some home =>
    ⟨rig.putMachine origin.machine (home.tally origin.serial), home.runs origin.serial, []⟩

/-- Lets the handler of an entry answer a call. -/
def dispatch (rig : Rig) (entry : Entry) (number : CallNumber) (arguments : Arguments) :
    Turn Int32 :=
  match entry.handler with
  | .led operation owner => rig.ledCall owner operation number arguments
  | .capability query owner => ⟨rig, query.answer (rig.devices owner) arguments, []⟩
  | .version => ⟨rig, Capability.version, []⟩
  | .platform id => ⟨rig, id, []⟩
  | .custom .counter =>
    let turn := rig.tally entry.origin
    ⟨turn.rig, Routine.counter.answer turn.answer number arguments, []⟩
  | .custom routine => ⟨rig, routine.answer 0 number arguments, []⟩

def tryInvoke (rig : Rig) (machine : Nat) (number : CallNumber) (arguments : Arguments) :
    Turn (Except CallError Int32) :=
  match rig.lookup machine number with
  | none => ⟨rig, .error .noHandler, []⟩
  | some entry =>
    let turn := rig.dispatch entry number arguments
    ⟨turn.rig, .ok turn.answer, turn.effects⟩

/-- Always answers with a number; a call without a handler is reported. -/
def invoke (rig : Rig) (machine : Nat) (number : CallNumber) (arguments : Arguments) :
    Turn Int32 :=
  let turn := rig.tryInvoke machine number arguments
  match turn.answer with
  | .ok value => ⟨turn.rig, value, turn.effects⟩
  | .error error =>
    ⟨turn.rig, error.code, turn.effects ++ turn.rig.write [.callFailed number error]⟩

end Switchboard.Rig
