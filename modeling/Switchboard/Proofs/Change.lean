import Switchboard.Proofs.Installation

/-!
# How a step changes a rig

A step leaves the rig as it is, replaces its own machine, points that machine at another bank,
counts a run, runs an LED command or drives a pin. What every step keeps is read off these
ways; that machines point at banks that are there is one such thing.
-/
namespace Switchboard

namespace Machine

theorem installAll_bank (machine : Machine) (self : Nat) (handlers : List (CallNumber × Handler)) :
    (machine.installAll self handlers).1.bank = machine.bank := by
  rw [installAll_eq]

theorem installAll_tallies (machine : Machine) (self : Nat)
    (handlers : List (CallNumber × Handler)) :
    (machine.installAll self handlers).1.tallies = machine.tallies := by
  rw [installAll_eq]

end Machine

namespace Rig

/-- The rigs that a step can leave behind. -/
inductive Change (rig : Rig) (step : Step) : Rig → Prop
  | nothing : Change rig step rig
  /-- Another board or registry, on the machine that the step addresses. -/
  | machine {before after : Machine} (hm : rig.machines[step.machine]? = some before)
      (hbank : after.bank = before.bank) (htallies : after.tallies = before.tallies) :
      Change rig step (rig.putMachine step.machine after)
  | pointed {before : Machine} {bank : Option Nat}
      (hm : rig.machines[step.machine]? = some before)
      (hbank : bank.all (· < rig.banks.length) = true) :
      Change rig step (rig.putMachine step.machine (before.setBank bank).1)
  /-- A run more of a counting handler that the step calls, on the machine that installed it. -/
  | counted {home : Machine} {origin : Origin} {number : CallNumber} {arguments : Arguments}
      (hm : rig.machines[origin.machine]? = some home)
      (hc : step.request.call? = some (number, arguments))
      (hl : rig.lookup step.machine number = some ⟨origin, .custom .counter⟩) :
      Change rig step (rig.putMachine origin.machine (home.tally origin.serial))
  | lit {owner : Nat} {command : Led.Command} (hw : rig.ledWork? step = some (owner, command)) :
      Change rig step (rig.led owner command).rig
  | driven {position : Nat} {bank : PinBank} {handle : UInt32} {level : Bool}
      (hr : step.request = .drive position handle level)
      (hb : rig.banks[position]? = some bank) :
      Change rig step (rig.putBank position (bank.drive handle level))

theorem change_call {rig : Rig} {step : Step} {number : CallNumber} {arguments : Arguments}
    (hc : step.request.call? = some (number, arguments)) :
    Change rig step (rig.step step).rig := by
  rw [step_rig_of_call hc]
  cases hl : rig.lookup step.machine number with
  | none =>
    rw [tryInvoke_of_absent hl]
    exact .nothing
  | some entry =>
    obtain ⟨origin, handler⟩ := entry
    rw [tryInvoke_of_lookup hl, Turn.finish_rig]
    unfold dispatch
    split
    · rename_i operation owner hh
      cases hh
      rw [ledCall_eq, Turn.finish_rig]
      exact .lit (ledWork?_of_led_call hc hl)
    · exact .nothing
    · exact .nothing
    · exact .nothing
    · rename_i hh
      cases hh
      show Change rig step (rig.tally origin).rig
      unfold tally
      split
      · exact .nothing
      · rename_i home hm
        exact .counted hm hc hl
    · exact .nothing

/-- Every step changes its rig in one of these ways. -/
theorem change_step (rig : Rig) (step : Step) : Change rig step (rig.step step).rig := by
  obtain ⟨self, request⟩ := step
  cases hm : rig.machines[self]? with
  | none =>
    rw [step_of_missing hm]
    exact .nothing
  | some machine =>
    have hstep : rig.step ⟨self, request⟩ = _ := step_of_machine hm request
    cases request with
    | invoke number arguments => exact change_call rfl
    | tryInvoke number arguments => exact change_call rfl
    | setBoard image =>
      rw [hstep]
      simp only [serve, setBoard]
      split
      · exact .nothing
      · rename_i after notice hset
        obtain ⟨board, rfl⟩ := Machine.setBoard_ok hset
        exact .machine hm rfl rfl
    | setBank bank =>
      rw [hstep]
      simp only [serve]
      split
      · rename_i hbank
        exact .pointed hm hbank
      · exact .nothing
    | registerStandard =>
      rw [hstep]
      simp only [serve]
      split
      · exact .nothing
      · refine .machine hm ?_ ?_
        · rw [Machine.registerStandard_eq, Machine.installAll_bank]
        · rw [Machine.registerStandard_eq, Machine.installAll_tallies]
    | registerLed source =>
      rw [hstep]
      simp only [serve]
      split
      · exact .machine hm (Machine.installAll_bank _ _ (Handler.ledSet source))
          (Machine.installAll_tallies _ _ (Handler.ledSet source))
      · exact .nothing
    | registerCapability source platform =>
      rw [hstep]
      simp only [serve]
      split
      · exact .machine hm (Machine.installAll_bank _ _ (Handler.capabilitySet source platform))
          (Machine.installAll_tallies _ _ (Handler.capabilitySet source platform))
      · exact .nothing
    | register number routine =>
      rw [hstep]
      cases routine with
      | none => exact .nothing
      | some routine => exact .machine hm rfl rfl
    | registerRoutine number routine =>
      rw [hstep]
      exact .machine hm rfl rfl
    | copy number target source =>
      rw [hstep]
      simp only [serve, copy]
      split
      · split
        · exact .nothing
        · exact .machine hm rfl rfl
      · exact .nothing
    | same number target source =>
      rw [hstep]
      simp only [serve]
      split <;> exact .nothing
    | unregister number =>
      rw [hstep]
      exact .machine hm rfl rfl
    | clear =>
      rw [hstep]
      exact .machine hm rfl rfl
    | platform =>
      rw [hstep]
      simp only [serve]
      split <;> exact .nothing
    | led command =>
      have hw : rig.ledWork? ⟨self, .led command⟩ = some (self, command) := rfl
      rw [step_rig_of_ledWork hw]
      exact .lit hw
    | levels bank =>
      rw [hstep]
      simp only [serve]
      split <;> exact .nothing
    | drive bank handle level =>
      rw [hstep]
      simp only [serve]
      split
      · exact .nothing
      · rename_i driven hb
        exact .driven rfl hb
    | _ =>
      rw [hstep]
      exact .nothing

/-- Every machine that points at a bank points at one of the rig. -/
def Wired (rig : Rig) : Prop :=
  ∀ (i : Nat) (machine : Machine), rig.machines[i]? = some machine →
    ∀ position, machine.bank = some position → position < rig.banks.length

theorem Change.wired {rig after : Rig} {step : Step} (h : Change rig step after)
    (hw : rig.Wired) : after.Wired := by
  have hput : ∀ (place : Nat) (put : Machine),
      (∀ position, put.bank = some position → position < rig.banks.length) →
      (rig.putMachine place put).Wired := by
    intro place put hbank i machine hi
    rw [putMachine_machines, List.getElem?_set] at hi
    split at hi
    · split at hi
      · cases hi
        exact hbank
      · cases hi
    · exact hw i machine hi
  have hbanks : ∀ (place : Nat) (bank : PinBank), (rig.putBank place bank).Wired := by
    intro place bank i machine hi position hp
    rw [putBank_banks, List.length_set]
    exact hw i machine hi position hp
  cases h with
  | nothing => exact hw
  | machine hm hbank _ =>
    refine hput _ _ fun position hp => hw _ _ hm position ?_
    rw [← hbank, hp]
  | @pointed before bank hm hbank =>
    refine hput _ _ fun position hp => ?_
    obtain rfl : bank = some position := hp
    exact of_decide_eq_true hbank
  | counted hm _ _ => exact hput _ _ fun position hp => hw _ _ hm position hp
  | @lit owner command _ =>
    rcases rig.led_cases owner command with ⟨_, -, h⟩ | ⟨_, _, _, _, -, -, -, -, h⟩
    · rw [h]
      exact hw
    · rw [h]
      exact hbanks _ _
  | driven _ _ => exact hbanks _ _

theorem wired_after {rig : Rig} (h : rig.Wired) (steps : List Step) : (rig.after steps).Wired := by
  induction steps generalizing rig with
  | nil => exact h
  | cons step rest ih => exact ih ((rig.change_step step).wired h)

theorem wired_of_session {session : Session} {rig : Rig} (h : session.rig = .ok rig) :
    rig.Wired := by
  intro i machine hi position hp
  obtain ⟨platform, board, rfl⟩ := session.machine_fresh h hi
  cases hp

end Rig

end Switchboard
