import Switchboard.Session.Step

/-!
A session sets a rig up and carries out its steps in order. Every step is reported with its reply,
the size its machine's registry then has, and everything that was observable.
-/
namespace Switchboard

structure Report where
  reply : Reply
  /-- Entries in the registry of the machine that the step addressed, after the step. -/
  count : Nat
  effects : List Effect
  deriving DecidableEq

/-- The calls among some effects, with the numbers of the banks. -/
def Effect.call? : Effect → Option (Nat × PinCall)
  | .pin bank call => some (bank, call)
  | .notice _ => none

def Effect.notice? : Effect → Option Notice
  | .pin _ _ => none
  | .notice noted => some noted

namespace Report

def calls (report : Report) : List (Nat × PinCall) := report.effects.filterMap Effect.call?

def notices (report : Report) : List Notice := report.effects.filterMap Effect.notice?

/-- The written notices, each as one line. -/
def lines (report : Report) : List String := report.notices.map Notice.line

/-- The lines of the notices that a filter lets through. -/
def log (report : Report) (filter : Filter) : List String :=
  (report.notices.filter fun notice => filter.admits notice.level).map Notice.line

end Report

namespace Rig

/-- What the steps report, in order. -/
def run (rig : Rig) : List Step → List Report
  | [] => []
  | step :: rest =>
    let turn := rig.step step
    ⟨turn.answer, turn.rig.registered step.machine, turn.effects⟩ :: turn.rig.run rest

/-- The rig that the steps leave behind. -/
def after (rig : Rig) (steps : List Step) : Rig :=
  steps.foldl (fun rig step => (rig.step step).rig) rig

end Rig

/-- How a machine starts: assembled as a whole, or as loose parts with or without a board. -/
inductive Assembly where
  | runtime (platform : Int32)
  | parts (image : Option (List UInt8))
  deriving DecidableEq

def Assembly.build : Assembly → Except ImageError Machine
  | runtime platform => .ok { platform := some platform }
  | parts none => .ok {}
  | parts (some image) => do
    let board ← Board.decode image
    return { board := some board }

structure Session where
  /-- Set before the machines are built; a session without one writes no lines. -/
  filter : Option Filter
  banks : List Behaviour
  machines : List Assembly
  steps : List Step
  deriving DecidableEq

namespace Session

/-- Machines are built in order; the first bad image is the session's only answer. -/
def rig (session : Session) : Except ImageError Rig := do
  let machines ← session.machines.mapM Assembly.build
  return {
    machines
    banks := session.banks.map fun behaviour => { behaviour }
    filter := session.filter }

def run (session : Session) : Except ImageError (List Report) := do
  let rig ← session.rig
  return rig.run session.steps

end Session

end Switchboard
