import Switchboard.Proofs.Consulting
import Switchboard.Proofs.ReadYourWrite
import Switchboard.Proofs.Split

/-!
# LED commands that commute

A step that consults boards and banks either asks no bank, and then it tells the same whatever the
banks hold, or it asks one bank about one pin. Two such steps meet only if they ask the same bank
about the same pin. If they do not, it makes no difference which comes first: each tells what it
would have told alone, and the same rig is left. So a run of steps that reach for a pin each of
their own can be put into any order.
-/
namespace Switchboard

namespace Rig

/-- Both steps run LED commands, on devices with one handle, for machines that point at one bank. -/
def SharePin (rig : Rig) (first second : Step) : Prop :=
  ∃ action other position device beside, rig.Aims first action position device ∧
    rig.Aims second other position beside ∧ device.handle = beside.handle

/-- Whatever the banks hold, the step changes nothing and tells the same. -/
def Idle (rig : Rig) (step : Step) : Prop :=
  ∃ answer effects, ∀ banks : List PinBank, banks.length = rig.banks.length →
    Rig.step { rig with banks := banks } step = ⟨{ rig with banks := banks }, answer, effects⟩

/-- Either step tells after the other what it tells alone, and one rig is left in the end, with the
machines as they were. -/
def Commute (rig : Rig) (first second : Step) : Prop :=
  let one := rig.step first
  let other := rig.step second
  ∃ last : Rig, last.machines = rig.machines ∧
    one.rig.step second = ⟨last, other.answer, other.effects⟩ ∧
    other.rig.step first = ⟨last, one.answer, one.effects⟩

theorem Commute.symm {rig : Rig} {first second : Step} (h : rig.Commute first second) :
    rig.Commute second first := by
  obtain ⟨last, hmachines, hsecond, hfirst⟩ := h
  exact ⟨last, hmachines, hfirst, hsecond⟩

theorem SharePin.symm {rig : Rig} {first second : Step} (h : rig.SharePin first second) :
    rig.SharePin second first := by
  obtain ⟨action, other, position, device, beside, haims, hothers, hhandle⟩ := h
  exact ⟨other, action, position, beside, device, hothers, haims, hhandle.symm⟩

/-- What a step aims at does not depend on the banks. -/
theorem Aims.congr {rig other : Rig} (h : other.machines = rig.machines) {step : Step}
    {action : Led.Action} {position : Nat} {device : Device}
    (haims : rig.Aims step action position device) : other.Aims step action position device := by
  obtain ⟨hw, hm, hp, hd⟩ := haims
  exact ⟨ledWork?_congr (lookup_congr h) ▸ hw, h ▸ hm, hp, hd⟩

theorem SharePin.congr {rig other : Rig} (h : other.machines = rig.machines) {first second : Step}
    (hshare : rig.SharePin first second) : other.SharePin first second := by
  obtain ⟨action, asked, position, device, beside, haims, hothers, hhandle⟩ := hshare
  exact ⟨action, asked, position, device, beside, haims.congr h, hothers.congr h, hhandle⟩

/-- A step that consults boards and banks asks no bank, or one bank about one pin. -/
theorem idle_or_aims {rig : Rig} {step : Step} (h : rig.Consults step) :
    rig.Idle step ∨ ∃ action position device bank,
      rig.Aims step action position device ∧ rig.banks[position]? = some bank := by
  have hsame : ∀ banks, rig.SameCalls { rig with banks := banks } := fun _ => ⟨rfl, rfl⟩
  rcases consults_cases h with ⟨owner, ⟨action, target⟩, form, noted, hwork, hstep⟩ |
    ⟨query, owner, arguments, hstep⟩ | ⟨answer, noted, hstep⟩
  · by_cases haims : ∃ machine position bank device, rig.machines[owner]? = some machine ∧
        machine.bank = some position ∧ rig.banks[position]? = some bank ∧
        Led.locate machine.devices target = .ok device
    · obtain ⟨machine, position, bank, device, hm, hp, hb, hd⟩ := haims
      exact Or.inr ⟨action, position, device, bank, ⟨hwork, hm, hp, hd⟩, hb⟩
    · obtain ⟨error, -, hled⟩ := led_of_unaimed ⟨action, target⟩
        fun machine position bank device hm hp hb hd =>
          haims ⟨machine, position, bank, device, hm, hp, hb, hd⟩
      refine Or.inl ⟨form (.error error), rig.write (noted (.error error)), ?_⟩
      intro banks hbanks
      rw [hstep _ (hsame banks), hled banks hbanks]
      rfl
  · exact Or.inl ⟨.value (query.answer (rig.devices owner) arguments), [],
      fun banks _ => hstep _ (hsame banks)⟩
  · exact Or.inl ⟨answer, rig.write noted, fun banks _ => hstep _ (hsame banks)⟩

section Pair

variable {rig : Rig} {first second : Step}

/-- A step that asks no bank commutes with all that moves banks only. -/
theorem commute_of_idle (hidle : rig.Idle first)
    (hmachines : (rig.step second).rig.machines = rig.machines) : rig.Commute first second := by
  obtain ⟨answer, effects, hstep⟩ := hidle
  have hbanks := (rig.step_lengths second).2
  have hone : rig.step first = ⟨rig, answer, effects⟩ := hstep rig.banks rfl
  have hmoved : (rig.step second).rig = { rig with banks := (rig.step second).rig.banks } := by
    rw [← hmachines, ← rig.step_filter second]
  have hother : (rig.step second).rig.step first = ⟨(rig.step second).rig, answer, effects⟩ := by
    rw [hmoved]
    exact hstep _ hbanks
  refine ⟨(rig.step second).rig, hmachines, ?_, ?_⟩
  · rw [hone]
  · rw [hone, hother]

variable {action other : Led.Action} {position place : Nat} {device beside : Device}
  {bank apart : PinBank}

theorem Aims.unique (h : rig.Aims first action position device)
    (hagain : rig.Aims first other place beside) :
    action = other ∧ position = place ∧ device = beside := by
  obtain ⟨hw, hm, hp, hd⟩ := h
  obtain ⟨hw', hm', hp', hd'⟩ := hagain
  cases hw.symm.trans hw'
  cases hm.symm.trans hm'
  cases hp.symm.trans hp'
  cases hd.symm.trans hd'
  exact ⟨rfl, rfl, rfl⟩

theorem commute_of_banks_ne (hfirst : rig.Aims first action position device)
    (hbank : rig.banks[position]? = some bank) (hsecond : rig.Aims second other place beside)
    (hapart : rig.banks[place]? = some apart) (h : position ≠ place) :
    rig.Commute first second := by
  let motion := action.perform bank device
  let shift := other.perform apart beside
  have hmoved : (rig.putBank position motion.bank).banks[place]? = some apart := by
    rw [putBank_banks, List.getElem?_set_ne h, hapart]
  have hshifted : (rig.putBank place shift.bank).banks[position]? = some bank := by
    rw [putBank_banks, List.getElem?_set_ne h.symm, hbank]
  have hcomm : (rig.putBank place shift.bank).putBank position motion.bank =
      (rig.putBank position motion.bank).putBank place shift.bank := by
    simp only [Rig.putBank, List.set_comm _ _ h]
  refine ⟨(rig.putBank position motion.bank).putBank place shift.bank, rfl, ?_, ?_⟩
  · rw [step_of_aims hfirst hbank, step_of_aims hsecond hapart,
      step_of_aims (hsecond.congr (putBank_machines ..)) hmoved]
  · rw [step_of_aims hfirst hbank, step_of_aims hsecond hapart,
      step_of_aims (hfirst.congr (putBank_machines ..)) hshifted, ← hcomm]

theorem commute_of_handles_ne (hfirst : rig.Aims first action position device)
    (hsecond : rig.Aims second other position beside) (hbank : rig.banks[position]? = some bank)
    (h : device.handle ≠ beside.handle) : rig.Commute first second := by
  let motion := action.perform bank device
  let shift := other.perform bank beside
  have hlt := (List.getElem?_eq_some_iff.1 hbank).1
  have hput : ∀ put : PinBank, (rig.putBank position put).banks[position]? = some put :=
    fun put => List.getElem?_set_self hlt
  have hover : ∀ one last : PinBank,
      (rig.putBank position one).putBank position last = rig.putBank position last := by
    intro one last
    simp only [Rig.putBank, List.set_set]
  refine ⟨rig.putBank position (other.perform motion.bank beside).bank, rfl, ?_, ?_⟩
  · rw [step_of_aims hfirst hbank, step_of_aims hsecond hbank,
      step_of_aims (hsecond.congr (putBank_machines ..)) (hput _), hover,
      Led.perform_comm h action other bank]
  · rw [step_of_aims hfirst hbank, step_of_aims hsecond hbank,
      step_of_aims (hfirst.congr (putBank_machines ..)) (hput _), hover,
      Led.perform_comm h.symm other action bank]

/-- Steps that do not come down to one pin commute. -/
theorem commute_of_not_sharePin (hfirst : rig.Consults first) (hsecond : rig.Consults second)
    (h : ¬ rig.SharePin first second) : rig.Commute first second := by
  rcases idle_or_aims hfirst with hidle | ⟨action, position, device, bank, haims, hbank⟩
  · exact commute_of_idle hidle (machines_of_consults hsecond)
  · rcases idle_or_aims hsecond with hidle | ⟨other, place, beside, apart, hothers, hapart⟩
    · exact (commute_of_idle hidle (machines_of_consults hfirst)).symm
    · by_cases hplace : position = place
      · subst hplace
        refine commute_of_handles_ne haims hothers hbank fun hhandle => h ?_
        exact ⟨action, other, position, device, beside, haims, hothers, hhandle⟩
      · exact commute_of_banks_ne haims hbank hothers hapart hplace

/-- Steps that commute report the same in either order, the sizes of the registries included. -/
theorem run_of_commute (h : rig.Commute first second) (hfirst : rig.Consults first)
    (hsecond : rig.Consults second) :
    rig.run [second, first] = (rig.run [first, second]).reverse ∧
      rig.after [second, first] = rig.after [first, second] := by
  obtain ⟨last, hlast, hafterFirst, hafterSecond⟩ := h
  have hcount : ∀ other : Rig, other.machines = rig.machines →
      other.registered = rig.registered := by
    intro other hother
    funext i
    simp only [registered, hother]
  constructor
  · show [Report.mk _ _ _, Report.mk _ _ _] = [Report.mk _ _ _, Report.mk _ _ _]
    rw [hafterFirst, hafterSecond, hcount last hlast, hcount _ (machines_of_consults hfirst),
      hcount _ (machines_of_consults hsecond)]
  · rw [after_cons, after_cons, after_cons, after_cons, hafterFirst, hafterSecond]

end Pair

/-- Steps that consult boards and banks and reach for a pin each of their own can be put into any
order: every step keeps its report, and the same rig is left. -/
theorem run_perm {rig : Rig} {steps others : List Step} (hperm : steps.Perm others)
    (hconsults : ∀ step ∈ steps, rig.Consults step)
    (hapart : steps.Pairwise fun first second => ¬ rig.SharePin first second) :
    (steps.zip (rig.run steps)).Perm (others.zip (rig.run others)) ∧
      rig.after steps = rig.after others := by
  -- no step changes a machine, so what is assumed of the rig holds all along the run
  induction hperm generalizing rig with
  | nil => exact ⟨.nil, rfl⟩
  | cons step hperm ih =>
    obtain ⟨hfirst, hrest⟩ := List.forall_mem_cons.1 hconsults
    have hmachines := machines_of_consults hfirst
    have hlater : ∀ later ∈ _, (rig.step step).rig.Consults later :=
      fun later hlater => (hrest later hlater).congr hmachines
    obtain ⟨hreports, hafter⟩ := ih hlater ((List.pairwise_cons.1 hapart).2.imp
      fun hpair hshare => hpair (hshare.congr hmachines.symm))
    exact ⟨hreports.cons _, hafter⟩
  | swap second first rest =>
    obtain ⟨hfirst, hsecond, -⟩ := List.forall_mem_cons.1 hconsults |>.imp_right
      List.forall_mem_cons.1
    have hpair := (List.pairwise_cons.1 hapart).1 second List.mem_cons_self
    obtain ⟨hrun, hafter⟩ :=
      run_of_commute (commute_of_not_sharePin hfirst hsecond hpair) hfirst hsecond
    obtain ⟨one, other, hreports⟩ : ∃ one other, rig.run [first, second] = [one, other] :=
      ⟨_, _, rfl⟩
    have hbefore : rig.run (first :: second :: rest) = _ := rig.run_append [first, second] rest
    have hswapped : rig.run (second :: first :: rest) = _ := rig.run_append [second, first] rest
    rw [hbefore, hswapped, hrun, hafter, hreports]
    refine ⟨.swap .., ?_⟩
    show (rig.after [first, second]).after rest = (rig.after [second, first]).after rest
    rw [hafter]
  | trans hperm _ ih ih' =>
    obtain ⟨hreports, hafter⟩ := ih hconsults hapart
    obtain ⟨hreports', hafter'⟩ := ih' (fun step hstep => hconsults step (hperm.mem_iff.2 hstep))
      (hperm.pairwise hapart fun hpair hshare => hpair hshare.symm)
    exact ⟨hreports.trans hreports', hafter.trans hafter'⟩

end Rig

/-- Take any two LED commands, given or called, whatever their arguments and on whatever machines,
or other calls that no custom routine answers. Unless both reach for the same pin of the same bank,
they can change places: each reports in either order the reply, the calls to banks and the notices
that it reports in the other, and the same rig is left, with the same levels on record in every
bank. -/
theorem led_calls_commute {rig : Rig} {first second : Step} (hfirst : rig.Consults first)
    (hsecond : rig.Consults second) (hapart : ¬ rig.SharePin first second) :
    rig.run [second, first] = (rig.run [first, second]).reverse ∧
      rig.after [second, first] = rig.after [first, second] :=
  Rig.run_of_commute (Rig.commute_of_not_sharePin hfirst hsecond hapart) hfirst hsecond

/-- Two machines on one bank. The first has an active-low LED at pin 10; the second has one at
pin 11, and one at pin 10 as well. -/
def pairedRig : Rig :=
  Rig.after ⟨[{ platform := some 1 }, {}], [⟨.sized 16, .empty⟩], some (.upTo .trace)⟩
    [⟨0, .registerStandard⟩, ⟨0, .setBank (some 0)⟩,
      ⟨0, .setBoard (some [1, 1, 0, 1, 10, 0, 0, 0])⟩, ⟨1, .registerLed 1⟩, ⟨1, .setBank (some 0)⟩,
      ⟨1, .setBoard (some [1, 1, 0, 0, 11, 0, 0, 0, 1, 1, 1, 0, 10, 0, 0, 0])⟩]

/-- Toggling the two pins commutes, and toggling a pin does not commute with reading it. -/
theorem led_calls_commute_paired :
    let toggle : Step := ⟨0, .invoke .ledToggle ⟨1, 1, 0⟩⟩
    let beside : Step := ⟨1, .invoke .ledToggle ⟨1, 1, 256⟩⟩
    let reading : Step := ⟨1, .tryInvoke .ledGet ⟨1, 1, 1⟩⟩
    pairedRig.run [beside, toggle] = (pairedRig.run [toggle, beside]).reverse ∧
    pairedRig.after [beside, toggle] = pairedRig.after [toggle, beside] ∧
    (pairedRig.run [toggle, beside]).map (·.effects) =
      [[.pin 0 (.read 10 true true), .pin 0 (.write 10 false true true)],
        [.pin 0 (.read 11 false false), .pin 0 (.write 11 true false true)]] ∧
    pairedRig.SharePin toggle reading ∧
    pairedRig.run [reading, toggle] ≠ (pairedRig.run [toggle, reading]).reverse := by
  intro toggle beside reading
  have htoggle : pairedRig.Aims toggle .toggle 0 ⟨⟨.led, .status, 0⟩, ⟨1⟩, 10⟩ :=
    ⟨rfl, rfl, rfl, rfl⟩
  have hbeside : pairedRig.Aims beside .toggle 0 ⟨⟨.led, .status, 0⟩, ⟨0⟩, 11⟩ :=
    ⟨rfl, rfl, rfl, rfl⟩
  have hreading : pairedRig.Aims reading .read 0 ⟨⟨.led, .status, 1⟩, ⟨0⟩, 10⟩ :=
    ⟨rfl, rfl, rfl, rfl⟩
  have hapart : ¬ pairedRig.SharePin toggle beside := by
    rintro ⟨_, _, _, device, other, hdevice, hother, hhandle⟩
    rw [(hdevice.unique htoggle).2.2, (hother.unique hbeside).2.2] at hhandle
    exact absurd hhandle (by decide)
  obtain ⟨hrun, hafter⟩ := led_calls_commute (Or.inl ⟨0, _, rfl⟩) (Or.inl ⟨1, _, rfl⟩) hapart
  exact ⟨hrun, hafter, by decide, ⟨_, _, _, _, _, htoggle, hreading, rfl⟩, by decide⟩

end Switchboard
