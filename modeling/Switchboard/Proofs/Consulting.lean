import Switchboard.Proofs.Turn

/-!
# Steps that consult boards and banks

LED commands and the calls of standard handlers look at boards and ask banks, and they leave every
machine as it is. What form their outcome takes is decided by the step and the registries: rigs
that differ in boards and banks tell of the same command in the same way.
-/
namespace Switchboard

/-- The reply of a step that runs an LED command. -/
def Step.ledForm (step : Step) (answer : Except CallError Bool) : Reply :=
  if step.request.call?.isSome then .value (Rig.ledValue answer) else Rig.ledReply answer

/-- What a step notes about the LED command that it runs. -/
def Step.ledNotes (step : Step) (answer : Except CallError Bool) : List Notice :=
  match step.request.call? with
  | none => []
  | some (number, arguments) => Rig.ledNotices number arguments answer

namespace Rig

theorem ledWork?_congr {one other : Rig} (h : one.lookup = other.lookup) :
    one.ledWork? = other.ledWork? := by
  funext step
  simp only [ledWork?, h]

/-- A step that runs an LED command is the command, seen from further out. -/
theorem step_of_ledWork {rig : Rig} {step : Step} {owner : Nat} {command : Led.Command}
    {found : Machine} (hm : rig.machines[owner]? = some found)
    (h : rig.ledWork? step = some (owner, command)) :
    rig.step step = (rig.led owner command).finish step.ledForm step.ledNotes := by
  rcases ledWork?_of_call h with ⟨hrequest, rfl⟩ |
    ⟨number, arguments, origin, operation, hc, hl, rfl⟩
  · obtain ⟨self, request⟩ := step
    cases hrequest
    rw [step_of_machine hm]
    exact ledCommand_eq rig self command
  · have hform : ∀ answer, step.ledForm answer = .value (ledValue answer) := by
      intro answer
      rw [Step.ledForm, hc]
      rfl
    have hnotes : ∀ answer, step.ledNotes answer = ledNotices number arguments answer := by
      intro answer
      rw [Step.ledNotes, hc]
    rw [step_of_led_call hc hl, Turn.finish, hform, hnotes]

/-- The other rig has the same machines as far as calls are concerned: under every number there is
the same entry. Boards and banks may differ. -/
structure SameCalls (rig other : Rig) : Prop where
  length : other.machines.length = rig.machines.length
  lookup : other.lookup = rig.lookup

/-- LED commands, given or called, and every other call that no custom routine answers. -/
def Consults (rig : Rig) (step : Step) : Prop :=
  (∃ owner command, rig.ledWork? step = some (owner, command)) ∨
    ∃ number arguments, step.request.call? = some (number, arguments) ∧
      ∀ entry, rig.lookup step.machine number = some entry →
        ∀ routine, entry.handler ≠ .custom routine

section SameCalls

variable {rig : Rig} {step : Step} {number : CallNumber} {arguments : Arguments}

/-- A step that runs an LED command takes one form of what comes of it, however boards and banks
stand. That the owner is missing decides the form as well: its own step is refused. -/
theorem exists_ledForm {owner : Nat} {command : Led.Command}
    (h : rig.ledWork? step = some (owner, command)) :
    ∃ form noted, ∀ other, rig.SameCalls other →
      other.step step = (other.led owner command).finish form noted := by
  by_cases howner : owner < rig.machines.length
  · refine ⟨step.ledForm, step.ledNotes, fun other hother => ?_⟩
    have hfound := List.getElem?_eq_getElem (hother.length.symm ▸ howner)
    exact step_of_ledWork hfound (ledWork?_congr hother.lookup ▸ h)
  · rcases ledWork?_of_call h with ⟨hrequest, hself⟩ |
      ⟨number, arguments, origin, operation, hc, hl, rfl⟩
    · refine ⟨fun _ => .refused .machine, fun _ => [], fun other hother => ?_⟩
      have hnone : other.machines[owner]? = none := by
        apply List.getElem?_eq_none
        rw [hother.length]
        omega
      obtain ⟨self, request⟩ := step
      cases hself
      rw [step_of_missing hnone]
      simp only [led, hnone]
      rfl
    · exact ⟨fun answer => .value (ledValue answer), ledNotices number arguments,
        fun other hother => step_of_led_call hc (hother.lookup ▸ hl)⟩

/-- A call under a number without an entry ends the same however boards and banks stand. -/
theorem exists_uncalled (hc : step.request.call? = some (number, arguments))
    (hl : rig.lookup step.machine number = none) :
    ∃ answer noted, ∀ other, rig.SameCalls other →
      other.step step = ⟨other, answer, other.write noted⟩ := by
  obtain ⟨called, request⟩ := step
  by_cases hcalled : called < rig.machines.length
  · have hstep := fun (other : Rig) (hother : rig.SameCalls other) =>
      step_of_absent (List.getElem?_eq_getElem (hother.length.symm ▸ hcalled))
        (hother.lookup ▸ hl) arguments
    cases request with
    | invoke _ _ =>
      cases hc
      exact ⟨_, _, fun other hother => (hstep other hother).1⟩
    | tryInvoke _ _ =>
      cases hc
      exact ⟨_, [], fun other hother => (hstep other hother).2⟩
    | _ => cases hc
  · refine ⟨.refused .machine, [], fun other hother => step_of_missing ?_ request⟩
    apply List.getElem?_eq_none
    rw [hother.length]
    omega

theorem lookup_congr {other : Rig} (h : other.machines = rig.machines) :
    other.lookup = rig.lookup := by
  funext i number
  rw [lookup_eq, lookup_eq, h]

/-- What a step consults does not depend on the banks. -/
theorem Consults.congr {other : Rig} (hconsults : rig.Consults step)
    (h : other.machines = rig.machines) : other.Consults step := by
  have hlookup := lookup_congr h
  unfold Consults
  rw [ledWork?_congr hlookup, hlookup]
  exact hconsults

/-- A step that consults boards and banks runs an LED command, or answers a query from a board, or
looks at neither. -/
theorem consults_cases (h : rig.Consults step) :
    (∃ owner command form noted, rig.ledWork? step = some (owner, command) ∧
      ∀ other, rig.SameCalls other →
        other.step step = (other.led owner command).finish form noted) ∨
    (∃ query owner arguments, ∀ other, rig.SameCalls other → other.step step =
      ⟨other, .value (Capability.Query.answer query (other.devices owner) arguments), []⟩) ∨
    ∃ answer noted, ∀ other, rig.SameCalls other →
      other.step step = ⟨other, answer, other.write noted⟩ := by
  rcases h with ⟨owner, command, hwork⟩ | ⟨number, arguments, hc, hcustom⟩
  · obtain ⟨form, noted, hform⟩ := exists_ledForm hwork
    exact Or.inl ⟨owner, command, form, noted, hwork, hform⟩
  · cases hl : rig.lookup step.machine number with
    | none => exact Or.inr (Or.inr (exists_uncalled hc hl))
    | some entry =>
      obtain ⟨origin, handler⟩ := entry
      have hstep := fun (other : Rig) (hother : rig.SameCalls other) =>
        step_of_call hc (hother.lookup ▸ hl)
      cases handler with
      | led operation owner =>
        have hwork := ledWork?_of_led_call hc hl
        obtain ⟨form, noted, hform⟩ := exists_ledForm hwork
        exact Or.inl ⟨owner, _, form, noted, hwork, hform⟩
      | capability query owner => exact Or.inr (Or.inl ⟨query, owner, arguments, hstep⟩)
      | version => exact Or.inr (Or.inr ⟨.value Capability.version, [], hstep⟩)
      | platform id => exact Or.inr (Or.inr ⟨.value id, [], hstep⟩)
      | custom routine => exact absurd rfl (hcustom _ hl routine)

theorem machines_of_consults (h : rig.Consults step) :
    (rig.step step).rig.machines = rig.machines := by
  have hself : rig.SameCalls rig := ⟨rfl, rfl⟩
  rcases consults_cases h with ⟨owner, command, form, noted, -, hstep⟩ |
    ⟨query, owner, arguments, hstep⟩ | ⟨answer, noted, hstep⟩
  · rw [hstep rig hself, Turn.finish_rig, led_machines]
  · rw [hstep rig hself]
  · rw [hstep rig hself]

end SameCalls

end Rig

end Switchboard
