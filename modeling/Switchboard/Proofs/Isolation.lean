import Mathlib.Data.List.Basic
import Switchboard.Proofs.Split

/-!
# Two sides never meet

As long as no step names a machine or a bank of the other side, the steps of one side report the
same with and without the steps of the other. Both sides may use the same images, numbers and
routines. Blanking the other side commutes with the steps of one side and hides those of the
other.
-/
namespace Switchboard

namespace Split

section Seen

variable {split : Split} {side : Bool} {rig : Rig}

theorem seen_finish {α β : Type} (turn : Turn α) (form : α → β) (noted : α → List Notice) :
    split.seen side (turn.finish form noted) = (split.seen side turn).finish form noted := rfl

theorem seen_update {self : Nat} (hself : split.machine self = side)
    (change : Machine × List Notice) (reply : Reply) :
    split.seen side (rig.update self change reply) =
      (split.part side rig).update self change reply := by
  simp only [seen, Rig.update, part_putMachine rig hself]
  rfl

theorem led_part (hparts : split.Parts rig) {owner : Nat} (howner : split.machine owner = side)
    (command : Led.Command) :
    (split.part side rig).led owner command = split.seen side (rig.led owner command) := by
  unfold Rig.led
  rw [part_machine rig howner]
  cases hm : rig.machines[owner]? with
  | none => rfl
  | some machine =>
    have hconf := hparts owner machine hm
    rw [howner] at hconf
    simp only [part_bankOf? rig hconf]
    cases hb : rig.bankOf? machine with
    | none => rfl
    | some found =>
      obtain ⟨position, bank⟩ := found
      have hside := hconf.bank position ((Rig.bankOf?_eq_some_iff _ _ _ _).1 hb).1
      simp only
      cases command.perform bank machine.devices with
      | error error => rfl
      | ok motion => simp only [seen, part_putBank rig hside]

theorem tally_part {origin : Origin} (h : split.machine origin.machine = side) :
    (split.part side rig).tally origin = split.seen side (rig.tally origin) := by
  unfold Rig.tally
  rw [part_machine rig h]
  cases rig.machines[origin.machine]? with
  | none => rfl
  | some home => simp only [seen, part_putMachine rig h]

theorem dispatch_part (hparts : split.Parts rig) {entry : Entry} (h : split.Holds side entry)
    (number : CallNumber) (arguments : Arguments) :
    (split.part side rig).dispatch entry number arguments =
      split.seen side (rig.dispatch entry number arguments) := by
  unfold Rig.dispatch
  split
  · rename_i operation owner hh
    rw [Rig.ledCall_eq, Rig.ledCall_eq, led_part hparts (h.owner owner (by rw [hh]; rfl)),
      seen_finish]
  · rename_i query owner hh
    rw [part_devices rig (h.owner owner (by rw [hh]; rfl))]
    rfl
  · rfl
  · rfl
  · simp only [tally_part h.origin]
    rfl
  · rfl

theorem tryInvoke_part (hparts : split.Parts rig) {self : Nat} (hself : split.machine self = side)
    (number : CallNumber) (arguments : Arguments) :
    (split.part side rig).tryInvoke self number arguments =
      split.seen side (rig.tryInvoke self number arguments) := by
  have hsame := part_lookup rig hself number
  cases hl : rig.lookup self number with
  | none =>
    rw [Rig.tryInvoke_of_absent hl, Rig.tryInvoke_of_absent (hsame.trans hl)]
    rfl
  | some entry =>
    rw [Rig.tryInvoke_of_lookup hl, Rig.tryInvoke_of_lookup (hsame.trans hl),
      dispatch_part hparts (hparts.holds hself hl), seen_finish]

/-- The steps of one side do not see the other. -/
theorem step_part (hparts : split.Parts rig) {step : Step} (hr : split.Respects step)
    (hside : split.machine step.machine = side) :
    (split.part side rig).step step = split.seen side (rig.step step) := by
  obtain ⟨self, request⟩ := step
  change split.machine self = side at hside
  have hmachine := part_machine rig hside
  cases hm : rig.machines[self]? with
  | none =>
    rw [Rig.step_of_missing hm, Rig.step_of_missing (hmachine.trans hm)]
    rfl
  | some machine =>
    have hupdate := @seen_update split side rig self hside
    rw [Rig.step_of_machine hm, Rig.step_of_machine (hmachine.trans hm)]
    cases request with
    | setBoard image =>
      simp only [Rig.serve, Rig.setBoard]
      split
      · rfl
      · rw [hupdate]
    | setBank bank =>
      simp only [Rig.serve, part_banks_length]
      split
      · rw [hupdate]
      · rfl
    | registerStandard =>
      simp only [Rig.serve]
      split
      · rfl
      · rw [hupdate]
    | registerLed source =>
      simp only [Rig.serve, part_machines_length]
      split
      · rw [hupdate]
      · rfl
    | registerCapability source platform =>
      simp only [Rig.serve, part_machines_length]
      split
      · rw [hupdate]
      · rfl
    | invoke number arguments =>
      simp only [Rig.serve, Rig.invoke_eq, tryInvoke_part hparts hside]
      rfl
    | tryInvoke number arguments =>
      simp only [Rig.serve, Rig.tryCall_eq, tryInvoke_part hparts hside]
      rfl
    | register number routine =>
      cases routine with
      | none => rfl
      | some routine => exact (hupdate _ _).symm
    | registerRoutine number routine => exact (hupdate _ _).symm
    | copy number target source =>
      have hsource := (hr.sources source (List.mem_singleton.2 rfl)).trans hside
      simp only [Rig.serve, Rig.copy, part_machines_length, part_lookup rig hsource]
      split
      · split
        · rfl
        · rw [hupdate]
      · rfl
    | same number target source =>
      have hsource := (hr.sources source (List.mem_singleton.2 rfl)).trans hside
      simp only [Rig.serve, Rig.same, part_machines_length, part_lookup rig hsource]
      split <;> rfl
    | unregister number => exact (hupdate _ _).symm
    | clear => exact (hupdate _ _).symm
    | platform =>
      simp only [Rig.serve]
      split <;> rfl
    | led command =>
      simp only [Rig.serve, Rig.ledCommand_eq, led_part hparts hside]
      rfl
    | levels bank =>
      have hbank := (hr.banks bank (List.mem_singleton.2 rfl)).trans hside
      simp only [Rig.serve, part_bank rig hbank]
      split <;> rfl
    | drive bank handle level =>
      have hbank := (hr.banks bank (List.mem_singleton.2 rfl)).trans hside
      simp only [Rig.serve, part_bank rig hbank]
      split
      · rfl
      · simp only [seen, part_putBank rig hbank]
    | _ => rfl

end Seen

/-- The reports of the steps of one side. -/
def reportsOf (split : Split) (side : Bool) (steps : List Step) (reports : List Report) :
    List Report :=
  ((steps.zip reports).filter fun done => split.owns side done.1).map Prod.snd

section Runs

variable {split : Split} {side : Bool}

theorem reportsOf_cons (step : Step) (steps : List Step) (report : Report)
    (reports : List Report) :
    split.reportsOf side (step :: steps) (report :: reports) =
      if split.owns side step then report :: split.reportsOf side steps reports
      else split.reportsOf side steps reports := by
  rw [reportsOf, List.zip_cons_cons, List.filter_cons]
  split <;> rfl

theorem reportsOf_all {steps : List Step} {reports : List Report}
    (hlength : reports.length = steps.length) (h : ∀ step ∈ steps, split.owns side step = true) :
    split.reportsOf side steps reports = reports := by
  have hall : ∀ done ∈ steps.zip reports, split.owns side done.1 = true :=
    fun done hdone => h done.1 (List.of_mem_zip hdone).1
  rw [reportsOf, List.filter_eq_self.2 hall]
  exact List.map_snd_zip (Nat.le_of_eq hlength)

/-- With the other side blank and its steps struck, the steps of a side report the same. -/
theorem run_part {rig : Rig} (hparts : split.Parts rig) {steps : List Step}
    (hr : ∀ step ∈ steps, split.Respects step) :
    (split.part side rig).run (steps.filter (split.owns side)) =
      split.reportsOf side steps (rig.run steps) := by
  induction steps generalizing rig with
  | nil => rfl
  | cons step rest ih =>
    have htouch := touches_step hparts (hr step List.mem_cons_self)
    have hrest := ih (htouch.parts hparts) fun other ho => hr other (List.mem_cons_of_mem _ ho)
    rw [Rig.run, reportsOf_cons, List.filter_cons]
    by_cases hside : split.machine step.machine = side
    · have howns : split.owns side step = true := beq_iff_eq.2 hside
      rw [if_pos howns, if_pos howns, Rig.run, step_part hparts (hr step List.mem_cons_self) hside]
      refine congrArg₂ List.cons ?_ hrest
      change Report.mk _ ((split.part side _).registered _) _ = _
      rw [part_registered _ hside]
      rfl
    · have howns : ¬ split.owns side step = true := fun h => hside (beq_iff_eq.1 h)
      rw [if_neg howns, if_neg howns, ← htouch.part_other hside]
      exact hrest

theorem parts_of_session {session : Session} {rig : Rig} (h : session.rig = .ok rig) :
    split.Parts rig := by
  intro i machine hm
  obtain ⟨platform, board, rfl⟩ := session.machine_fresh h hm
  exact ⟨fun _ hp => (by cases hp), fun _ _ he => (by cases he)⟩

end Runs

end Split

/-- Striking every step of one side leaves every report of the other side's steps as it was. -/
theorem strike_other_side (split : Split) (side : Bool) (session : Session)
    (hr : ∀ step ∈ session.steps, split.Respects step) :
    { session with steps := session.steps.filter (split.owns side) }.run =
      session.run.map (split.reportsOf side session.steps) := by
  have hrig : { session with steps := session.steps.filter (split.owns side) }.rig =
    session.rig := rfl
  unfold Session.run
  rw [hrig]
  cases h : session.rig with
  | error error => rfl
  | ok rig =>
    have hparts : split.Parts rig := Split.parts_of_session h
    have hkept : ∀ step ∈ session.steps.filter (split.owns side), split.Respects step :=
      fun step hs => hr step (List.mem_filter.1 hs).1
    -- the struck run starts on the whole rig, so it is compared with a blank half as well
    have hstruck : rig.run (session.steps.filter (split.owns side)) =
        (split.part side rig).run (session.steps.filter (split.owns side)) := by
      have hpart := @Split.run_part split side rig hparts _ hkept
      rw [List.filter_filter, Split.reportsOf_all (Rig.length_run _ _)
        fun step hs => (List.mem_filter.1 hs).2] at hpart
      rw [← hpart]
      simp only [Bool.and_self]
    change Except.ok (rig.run _) = Except.ok (split.reportsOf side session.steps _)
    rw [hstruck, Split.run_part hparts hr]

/-- Machine 1 and bank 1 against the rest. -/
def secondApart : Split := ⟨(· == 1), (· == 1)⟩

/-- Two runtimes over the same image, with the same numbers and routines, taking turns. -/
def turnsSession : Session where
  filter := some (.upTo .trace)
  banks := [.sound, .sound]
  machines := [.runtime 1, .runtime 2]
  steps :=
    [⟨0, .registerStandard⟩, ⟨1, .registerStandard⟩, ⟨0, .setBank (some 0)⟩,
      ⟨1, .setBank (some 1)⟩, ⟨0, .setBoard (some [1, 2, 1, 0, 10, 0, 0, 0])⟩,
      ⟨1, .setBoard (some [1, 2, 1, 0, 10, 0, 0, 0])⟩, ⟨0, .register 7 (some .counter)⟩,
      ⟨1, .register 7 (some .counter)⟩, ⟨1, .invoke 7 ⟨0, 0, 0⟩⟩, ⟨1, .invoke .ledOn ⟨1, 2, 1⟩⟩,
      ⟨0, .invoke 7 ⟨0, 0, 0⟩⟩, ⟨0, .invoke .ledGet ⟨1, 2, 1⟩⟩]

/-- The counter and the light of runtime 0 know nothing of those of runtime 1. -/
theorem strike_other_side_turns :
    (∀ step ∈ turnsSession.steps, secondApart.Respects step) ∧
    { turnsSession with steps := turnsSession.steps.filter (secondApart.owns false) }.run =
      turnsSession.run.map (secondApart.reportsOf false turnsSession.steps) ∧
    ∃ reports, turnsSession.run = .ok reports ∧
      (secondApart.reportsOf false turnsSession.steps reports).map Report.reply =
        [.nothing, .nothing, .count 1, .flag true, .value 1, .value 0] := by
  have hr : ∀ step ∈ turnsSession.steps, secondApart.Respects step := by decide
  exact ⟨hr, strike_other_side secondApart false turnsSession hr, _, rfl, by decide⟩

end Switchboard
