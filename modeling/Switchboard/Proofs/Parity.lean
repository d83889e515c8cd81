import Mathlib.Data.Nat.Bits
import Switchboard.Proofs.Pins
import Switchboard.Proofs.Provenance

/-!
# Toggling by parity

Each toggle that is answered with 1 turns the physical level of one pin over, whichever device led
to the pin and whether that device is active low or not: what is read is inverted and what is
written is inverted, so the inversions cancel. Over a run the level of a pin depends on how often
it was hit, and a pin that was never hit is not even recorded. Boards may be swapped between the
calls. A bank must not be stuck: such a bank accepts writes that reach no pin.
-/
namespace Switchboard

namespace Led

/-- Reading and writing through one device invert the level twice or not at all. -/
theorem Motion.toggle_bank {bank : PinBank} (h : bank.behaviour ≠ .stuck) (device : Device) :
    (Motion.toggle bank device).bank =
      if bank.accepts device.handle then
        bank.drive device.handle (!bank.level device.handle)
      else bank := by
  have hlevel : ((!(bank.level device.handle != device.activeLow)) != device.activeLow) =
      !bank.level device.handle := by
    cases bank.level device.handle <;> cases device.activeLow <;> rfl
  have hsound : (bank.behaviour != .stuck) = true := bne_iff_ne.2 h
  change bank.write device.handle _ device.activeLow = _
  rw [PinBank.write, hsound, Bool.and_true]
  simp only [Motion.read, PinBank.read, hlevel]

theorem Motion.toggle_behaviour {bank : PinBank} (h : bank.behaviour ≠ .stuck) (device : Device) :
    (Motion.toggle bank device).bank.behaviour = bank.behaviour := by
  rw [Motion.toggle_bank h]
  split
  · rw [PinBank.drive_behaviour]
  · rfl

theorem Motion.toggle_get? {bank : PinBank} (h : bank.behaviour ≠ .stuck) (device : Device)
    (handle : UInt32) :
    (Motion.toggle bank device).bank.levels.get? handle =
      if bank.accepts device.handle = true ∧ device.handle = handle then some (!bank.level handle)
      else bank.levels.get? handle := by
  rw [Motion.toggle_bank h]
  by_cases ha : bank.accepts device.handle = true
  · rw [if_pos ha, PinBank.drive_get?]
    by_cases hd : device.handle = handle
    · rw [if_pos hd.symm, if_pos ⟨ha, hd⟩, hd]
    · rw [if_neg (Ne.symm hd), if_neg fun hboth => hd hboth.2]
  · rw [if_neg ha, if_neg fun hboth => ha hboth.1]

end Led

namespace Rig

/-- The machine answers the toggle with the LED handler, and the board and the bank that this
handler works with belong to a machine that points at the bank at `position`. -/
def TogglesOn (rig : Rig) (position machine : Nat) : Prop :=
  ∃ origin owner, rig.lookup machine .ledToggle = some ⟨origin, .led .toggle owner⟩ ∧
    (rig.machines[owner]?).bind (·.bank) = some position

/-- A toggle that works on the bank at `position`, or a swap of any machine's board. -/
inductive TogglesOrSwaps (rig : Rig) (position : Nat) : Step → Prop
  | toggle {machine : Nat} {request : Request} {arguments : Arguments}
      (hc : request.call? = some (.ledToggle, arguments)) (h : rig.TogglesOn position machine) :
      TogglesOrSwaps rig position ⟨machine, request⟩
  | swap {machine : Nat} {image : Option (List UInt8)} :
      TogglesOrSwaps rig position ⟨machine, .setBoard image⟩

/-- The device that the LED command in a step finds. -/
def target? (rig : Rig) (step : Step) : Option Device := do
  let (owner, command) ← rig.ledWork? step
  let machine ← rig.machines[owner]?
  (Led.locate machine.devices command.target).toOption

/-- The step finds a device with this handle and answers 1. -/
def Hits (rig : Rig) (step : Step) (handle : UInt32) : Prop :=
  (rig.target? step).map Device.handle = some handle ∧ (rig.step step).answer = .value 1

instance (rig : Rig) (step : Step) (handle : UInt32) : Decidable (rig.Hits step handle) :=
  inferInstanceAs (Decidable (_ ∧ _))

/-- How many steps of a run hit a pin. -/
def hits (rig : Rig) (handle : UInt32) : List Step → Nat
  | [] => 0
  | step :: rest =>
    (if rig.Hits step handle then 1 else 0) + (rig.step step).rig.hits handle rest

section Step

variable {rig : Rig} {position : Nat} {step : Step} {bank : PinBank}

/-- A swap of a board changes neither the banks nor who points at which. -/
theorem swap_keeps (rig : Rig) (machine : Nat) (image : Option (List UInt8)) :
    let after := (rig.step ⟨machine, .setBoard image⟩).rig
    after.banks = rig.banks ∧
    ∀ i : Nat, (after.machines[i]?).bind (·.bank) = (rig.machines[i]?).bind (·.bank) := by
  cases hm : rig.machines[machine]? with
  | none =>
    rw [step_of_missing hm]
    exact ⟨rfl, fun _ => rfl⟩
  | some found =>
    rw [step_of_machine hm]
    cases hset : found.setBoard image with
    | error error =>
      simp only [serve, setBoard, hset]
      exact ⟨rfl, fun _ => rfl⟩
    | ok taken =>
      obtain ⟨after, notice⟩ := taken
      obtain ⟨board, rfl⟩ := Machine.setBoard_ok hset
      simp only [serve, setBoard, hset, update, putMachine_machines]
      refine ⟨rfl, fun i => ?_⟩
      rw [List.getElem?_set]
      by_cases hi : machine = i
      · subst hi
        have hlt := (List.getElem?_eq_some_iff.1 hm).1
        rw [if_pos rfl, if_pos hlt, hm]
        rfl
      · rw [if_neg hi]

/-- Neither a toggle nor a swap redirects a toggle to another bank. -/
theorem togglesOn_step (hs : rig.TogglesOrSwaps position step) {machine : Nat}
    (h : rig.TogglesOn position machine) : (rig.step step).rig.TogglesOn position machine := by
  obtain ⟨origin, owner, hl, hp⟩ := h
  cases hs with
  | @toggle caller request arguments hc hcaller =>
    obtain ⟨_, lender, hlent, -⟩ := hcaller
    have hturn : rig.step ⟨caller, request⟩ = _ := step_of_led_call hc hlent
    have hmachines : (rig.step ⟨caller, request⟩).rig.machines = rig.machines := by
      rw [hturn]
      exact led_machines ..
    refine ⟨origin, owner, ?_, ?_⟩
    · rw [lookup_eq, hmachines, ← lookup_eq, hl]
    · rw [hmachines, hp]
  | @swap swapped image =>
    have hkept : ¬ rig.Replaces ⟨swapped, .setBoard image⟩ machine .ledToggle :=
      fun hreplaced => List.not_mem_nil hreplaced.2
    refine ⟨origin, owner, ?_, ?_⟩
    · rw [lookup_of_kept hkept, hl]
    · rw [(swap_keeps rig swapped image).2 owner, hp]

theorem togglesOrSwaps_step (hs : rig.TogglesOrSwaps position step) {next : Step}
    (h : rig.TogglesOrSwaps position next) :
    (rig.step step).rig.TogglesOrSwaps position next := by
  cases h with
  | toggle hc hcaller => exact .toggle hc (togglesOn_step hs hcaller)
  | swap => exact .swap

theorem target?_eq_some_iff {owner : Nat} {command : Led.Command}
    (hwork : rig.ledWork? step = some (owner, command)) (device : Device) :
    rig.target? step = some device ↔
      ∃ machine, rig.machines[owner]? = some machine ∧
        Led.locate machine.devices command.target = .ok device := by
  unfold target?
  rw [hwork]
  simp only [Option.bind_eq_bind, Option.bind_some, Option.bind_eq_some_iff]
  refine exists_congr fun machine => and_congr_right fun _ => ?_
  cases Led.locate machine.devices command.target with
  | error error => exact ⟨nofun, nofun⟩
  | ok found => simp only [Except.toOption, Option.some.injEq, Except.ok.injEq]

/-- A toggle finds no device and leaves everything, or it finds one and the bank is asked. -/
theorem toggle_cases {caller : Nat} {request : Request} {arguments : Arguments}
    (hc : request.call? = some (.ledToggle, arguments)) (h : rig.TogglesOn position caller)
    (hb : rig.banks[position]? = some bank) :
    let step : Step := ⟨caller, request⟩
    let turn := rig.step step
    rig.target? step = none ∧ turn.answer = .value 0 ∧ turn.rig = rig ∨
    ∃ device, rig.target? step = some device ∧
      turn.answer = .value (if bank.accepts device.handle then 1 else 0) ∧
      turn.rig = rig.putBank position (Led.Motion.toggle bank device).bank := by
  intro step turn
  obtain ⟨origin, owner, hl, hpoints⟩ := h
  have hturn : rig.step step = _ := step_of_led_call hc hl
  have hwork : rig.ledWork? step = _ := ledWork?_of_led_call hc hl
  have hbank : ∀ machine, rig.machines[owner]? = some machine →
      machine.bank = some position := by
    intro machine hm
    rw [hm, Option.bind_some] at hpoints
    exact hpoints
  cases htarget : rig.target? step with
  | some device =>
    obtain ⟨machine, hm, hd⟩ := (target?_eq_some_iff hwork device).1 htarget
    rw [led_of_located hm (hbank machine hm) hb hd] at hturn
    exact Or.inr ⟨device, rfl, congrArg Turn.answer hturn, congrArg Turn.rig hturn⟩
  | none =>
    obtain ⟨error, hcode, hmissed⟩ : ∃ error : CallError, error.code = 0 ∧
        rig.led owner (Led.Operation.toggle.command arguments) = ⟨rig, .error error, []⟩ := by
      apply led_of_missed
      intro machine _ _ device hm _ _ hd
      have hfound := (target?_eq_some_iff hwork device).2 ⟨machine, hm, hd⟩
      cases htarget.symm.trans hfound
    rw [hmissed] at hturn
    have hanswer : turn.answer = .value error.code := congrArg Turn.answer hturn
    rw [hcode] at hanswer
    exact Or.inl ⟨rfl, hanswer, congrArg Turn.rig hturn⟩

/-- A step turns over the pins it hits and touches no others. -/
theorem levels_step (hs : rig.TogglesOrSwaps position step)
    (hb : rig.banks[position]? = some bank) (hstuck : bank.behaviour ≠ .stuck) :
    ∃ after, (rig.step step).rig.banks[position]? = some after ∧
      after.behaviour = bank.behaviour ∧
      ∀ handle, after.levels.get? handle =
        if rig.Hits step handle then some (!bank.level handle) else bank.levels.get? handle := by
  cases hs with
  | @toggle caller request arguments hc hcaller =>
    rcases toggle_cases hc hcaller hb with ⟨htarget, -, hrig⟩ | ⟨device, htarget, hanswer, hrig⟩
    · refine ⟨bank, by rw [hrig, hb], rfl, fun handle => ?_⟩
      have hno : ¬ rig.Hits ⟨caller, request⟩ handle := by
        intro hhit
        rw [Hits, htarget] at hhit
        cases hhit.1
      rw [if_neg hno]
    · have hlt := (List.getElem?_eq_some_iff.1 hb).1
      refine ⟨(Led.Motion.toggle bank device).bank, ?_, Led.Motion.toggle_behaviour hstuck device,
        fun handle => ?_⟩
      · rw [hrig, putBank_banks, List.getElem?_set_self hlt]
      · have hhits : rig.Hits ⟨caller, request⟩ handle ↔
            bank.accepts device.handle = true ∧ device.handle = handle := by
          rw [Hits, hanswer, htarget, Option.map_some, Option.some_inj]
          cases bank.accepts device.handle <;> simp
        rw [Led.Motion.toggle_get? hstuck]
        simp only [hhits]
  | @swap machine image =>
    refine ⟨bank, ?_, rfl, fun handle => ?_⟩
    · rw [(swap_keeps rig machine image).1, hb]
    · have hno : ¬ rig.Hits ⟨machine, .setBoard image⟩ handle := by
        intro hhit
        cases hhit.1
      rw [if_neg hno]

/-- A toggle that finds a device is answered as the bank answers the write, and a refused write
moves nothing. -/
theorem step_of_found (hs : rig.TogglesOrSwaps position step)
    (hb : rig.banks[position]? = some bank) {device : Device}
    (hd : rig.target? step = some device) :
    (rig.step step).answer = .value (if bank.accepts device.handle then 1 else 0) ∧
      (bank.accepts device.handle = false → (rig.step step).rig = rig) := by
  cases hs with
  | @toggle caller request arguments hc hcaller =>
    rcases toggle_cases hc hcaller hb with ⟨hmissed, -⟩ | ⟨found, htarget, hanswer, hrig⟩
    · cases hmissed.symm.trans hd
    · cases htarget.symm.trans hd
      refine ⟨hanswer, fun hrefused => ?_⟩
      have hkept : (Led.Motion.toggle bank device).bank = bank :=
        PinBank.write_of_refused hrefused _ device.activeLow
      rw [hrig, hkept, putBank_self hb]
  | swap => cases hd

end Step

section Run

variable {position : Nat} {bank : PinBank}

theorem togglesOrSwaps_after {rig : Rig} {steps : List Step}
    (hsteps : ∀ step ∈ steps, rig.TogglesOrSwaps position step) {next : Step}
    (h : rig.TogglesOrSwaps position next) :
    (rig.after steps).TogglesOrSwaps position next := by
  induction steps generalizing rig with
  | nil => exact h
  | cons step rest ih =>
    have hstep := hsteps step List.mem_cons_self
    refine ih (fun other hother => ?_) (togglesOrSwaps_step hstep h)
    exact togglesOrSwaps_step hstep (hsteps other (List.mem_cons_of_mem _ hother))

/-- The levels after a run, by what was hit how often. The first step is taken off, and what is left
is a run from the bank it leaves, which treats writes as before. -/
theorem levels_after {rig : Rig} {steps : List Step}
    (hsteps : ∀ step ∈ steps, rig.TogglesOrSwaps position step)
    (hb : rig.banks[position]? = some bank) (hstuck : bank.behaviour ≠ .stuck) :
    ∃ last, (rig.after steps).banks[position]? = some last ∧ last.behaviour = bank.behaviour ∧
      ∀ handle,
        last.level handle = (bank.level handle ^^ (rig.hits handle steps).bodd) ∧
        (rig.hits handle steps = 0 → last.levels.get? handle = bank.levels.get? handle) := by
  induction steps generalizing rig bank with
  | nil =>
    refine ⟨bank, hb, rfl, fun handle => ⟨?_, fun _ => rfl⟩⟩
    rw [hits, Nat.bodd_zero, Bool.xor_false]
  | cons step rest ih =>
    have hstep := hsteps step List.mem_cons_self
    obtain ⟨after, hafter, hbehaviour, hlevels⟩ := levels_step hstep hb hstuck
    have hrest : ∀ other ∈ rest, (rig.step step).rig.TogglesOrSwaps position other :=
      fun other hother => togglesOrSwaps_step hstep (hsteps other (List.mem_cons_of_mem _ hother))
    obtain ⟨last, hlast, hlastBehaviour, hlastLevels⟩ := ih hrest hafter (hbehaviour ▸ hstuck)
    refine ⟨last, hlast, hlastBehaviour.trans hbehaviour, fun handle => ?_⟩
    obtain ⟨hlevel, hrecorded⟩ := hlastLevels handle
    have hfirst := hlevels handle
    by_cases hhit : rig.Hits step handle
    -- the pin is turned over now and by every later hit
    · rw [if_pos hhit] at hfirst
      have hturned : after.level handle = !bank.level handle := by
        rw [PinBank.level, hfirst, Option.getD_some]
      refine ⟨?_, fun hzero => ?_⟩
      · rw [hlevel, hturned, hits, if_pos hhit, Nat.bodd_add, Nat.bodd_one, Bool.not_xor,
          Bool.true_xor, Bool.xor_not]
      · rw [hits, if_pos hhit] at hzero
        omega
    · rw [if_neg hhit] at hfirst
      have hsame : after.level handle = bank.level handle := by
        rw [PinBank.level, hfirst, PinBank.level]
      rw [hits, if_neg hhit, Nat.zero_add]
      refine ⟨?_, fun hzero => ?_⟩
      · rw [hlevel, hsame]
      · rw [hrecorded hzero, hfirst]

end Run

end Rig

/-- Over toggles of one bank, with swaps of boards between them, a pin ends at the level it had,
turned over when it was hit an odd number of times, through whichever devices. One that was not
hit is recorded if it was recorded before. A toggle that finds a device hits its pin unless the
bank refuses; beyond the size of a bank it is answered with 0 and changes nothing. -/
theorem toggles_flip_by_parity {start : Rig} {position : Nat} {bank : PinBank} {steps : List Step}
    (hsteps : ∀ step ∈ steps, start.TogglesOrSwaps position step)
    (hb : start.banks[position]? = some bank) (hstuck : bank.behaviour ≠ .stuck) :
    (∃ last, (start.after steps).banks[position]? = some last ∧
      ∀ handle,
        last.level handle = (bank.level handle ^^ (start.hits handle steps).bodd) ∧
        (start.hits handle steps = 0 →
          last.levels.get? handle = bank.levels.get? handle)) ∧
    ∀ before step rest, steps = before ++ step :: rest →
      let rig := start.after before
      ∀ device, rig.target? step = some device →
        (rig.step step).answer = .value (if bank.accepts device.handle then 1 else 0) ∧
        ∀ size, bank.behaviour = .sized size → size ≤ device.handle →
          (rig.step step).answer = .value 0 ∧ (rig.step step).rig = rig := by
  refine ⟨?_, ?_⟩
  · obtain ⟨last, hlast, -, hlevels⟩ := Rig.levels_after hsteps hb hstuck
    exact ⟨last, hlast, hlevels⟩
  · rintro before step rest rfl rig device hd
    have hbefore : ∀ other ∈ before, start.TogglesOrSwaps position other :=
      fun other hother => hsteps other (List.mem_append_left _ hother)
    obtain ⟨found, hfound, hbehaviour, -⟩ := Rig.levels_after hbefore hb hstuck
    have hstep := Rig.togglesOrSwaps_after hbefore
      (hsteps step (List.mem_append_right _ List.mem_cons_self))
    have hsame : found.accepts device.handle = bank.accepts device.handle := by
      rw [PinBank.accepts, PinBank.accepts, hbehaviour]
    obtain ⟨hanswer, hkept⟩ := Rig.step_of_found hstep hfound hd
    rw [hsame] at hanswer hkept
    refine ⟨hanswer, fun size hsize hbeyond => ?_⟩
    have hrefused : bank.accepts device.handle = false := by
      rw [PinBank.accepts, hsize]
      exact decide_eq_false (UInt32.not_lt.2 hbeyond)
    rw [hrefused] at hanswer
    exact ⟨hanswer, hkept hrefused⟩

/-- Two LEDs that share pin 10, the second one active low, and one on pin 20. -/
def sharedPin : List UInt8 :=
  [1, 1, 0, 0, 10, 0, 0, 0, 1, 1, 1, 1, 10, 0, 0, 0, 1, 1, 2, 0, 20, 0, 0, 0]

/-- A runtime over them, on a bank of sixteen pins, and a machine that borrows its handlers. -/
def sharedRig : Rig :=
  Rig.after ⟨[{ platform := some 1 }, {}], [⟨.sized 16, .empty⟩], some (.upTo .trace)⟩
    [⟨0, .registerStandard⟩, ⟨0, .setBank (some 0)⟩, ⟨0, .setBoard (some sharedPin)⟩,
      ⟨1, .registerLed 0⟩]

/-- Pin 10 is hit through both LEDs and, after the swap, through the active-low one alone. -/
def sharedSteps : List Step :=
  [⟨0, .invoke .ledToggle ⟨1, 1, 0⟩⟩, ⟨1, .invoke .ledToggle ⟨1, 1, 1⟩⟩,
    ⟨0, .invoke .ledToggle ⟨1, 1, 2⟩⟩,
    ⟨0, .setBoard (some [1, 1, 0, 1, 10, 0, 0, 0, 1, 1, 1, 0, 3, 0, 0, 0])⟩,
    ⟨1, .tryInvoke .ledToggle ⟨1, 1, 0⟩⟩, ⟨0, .invoke .ledToggle ⟨2, 1, 0⟩⟩]

/-- Three hits leave pin 10 high, and pin 20 is beyond the bank. -/
theorem toggles_flip_by_parity_shared :
    let beyond : Step := ⟨0, .invoke .ledToggle ⟨1, 1, 2⟩⟩
    let rig := sharedRig.after (sharedSteps.take 2)
    (∀ step ∈ sharedSteps, sharedRig.TogglesOrSwaps 0 step) ∧
    sharedRig.hits 10 sharedSteps = 3 ∧
    (∃ last, (sharedRig.after sharedSteps).banks[0]? = some last ∧
      last.level 10 = true ∧ last.levels.get? 3 = none) ∧
    (rig.step beyond).answer = .value 0 ∧ (rig.step beyond).rig = rig := by
  intro beyond rig
  have hown : sharedRig.TogglesOn 0 0 := ⟨_, 0, rfl, rfl⟩
  have hlent : sharedRig.TogglesOn 0 1 := ⟨_, 0, rfl, rfl⟩
  have hsteps : ∀ step ∈ sharedSteps, sharedRig.TogglesOrSwaps 0 step := by
    simp only [sharedSteps, List.forall_mem_cons]
    exact ⟨.toggle rfl hown, .toggle rfl hlent, .toggle rfl hown, .swap, .toggle rfl hlent,
      .toggle rfl hown, List.forall_mem_nil _⟩
  have hhits : sharedRig.hits 10 sharedSteps = 3 := by decide
  have hnever : sharedRig.hits 3 sharedSteps = 0 := by decide
  have hb : sharedRig.banks[0]? = some ⟨.sized 16, .empty⟩ := rfl
  obtain ⟨⟨last, hlast, hlevels⟩, hanswers⟩ := toggles_flip_by_parity hsteps hb (by decide)
  refine ⟨hsteps, hhits, ⟨last, hlast, ?_, (hlevels 3).2 hnever⟩, ?_⟩
  · rw [(hlevels 10).1, hhits]
    rfl
  · have hfound := hanswers (sharedSteps.take 2) beyond (sharedSteps.drop 3) rfl
      ⟨⟨.led, .status, 2⟩, ⟨0⟩, 20⟩ (by decide)
    exact hfound.2 16 rfl (by decide)

end Switchboard
