import Switchboard.Proofs.Provenance

/-!
# What a change of a registry does to others

A registry decides which entry a call runs, and that is all it decides: boards, banks and tallies
have their own fields, and no handler reads a registry. So a step that changes a registry is seen
by the calls of the numbers that it replaces, and by the requests that ask for the registry. Calls
of other entries, and requests about boards and banks, go on as if it had not been taken.
-/
namespace Switchboard

namespace Machine

/-- The machine without its registry and without what it counts of its installations. -/
def bare (machine : Machine) : Machine := { machine with registry := .empty, issued := 0 }

theorem installAll_bare (machine : Machine) (self : Nat) (handlers : List (CallNumber × Handler)) :
    (machine.installAll self handlers).1.bare = machine.bare := by
  rw [installAll_eq]
  rfl

end Machine

/-- Requests about boards, banks and platforms, which neither read nor change a registry. -/
def Request.bookless : Request → Bool
  | .setBoard _ => true
  | .setBank _ => true
  | .platform => true
  | .find _ _ _ => true
  | .findDefault _ _ => true
  | .countDevices _ => true
  | .devices => true
  | .hasBoard => true
  | .led _ => true
  | .levels _ => true
  | .drive _ _ _ => true
  | _ => false

namespace Rig

/-- The rig with empty registries. -/
def bare (rig : Rig) : Rig := { rig with machines := rig.machines.map Machine.bare }

theorem bare_machine {rig : Rig} {i : Nat} {machine : Machine}
    (h : rig.machines[i]? = some machine) : rig.bare.machines[i]? = some machine.bare := by
  rw [bare, List.getElem?_map, h, Option.map_some]

theorem bare_missing {rig : Rig} {i : Nat} (h : rig.machines[i]? = none) :
    rig.bare.machines[i]? = none := by
  rw [bare, List.getElem?_map, h, Option.map_none]

theorem putMachine_bare (rig : Rig) (position : Nat) (machine : Machine) :
    (rig.putMachine position machine).bare = rig.bare.putMachine position machine.bare := by
  simp only [bare, putMachine, List.map_set]

end Rig

/-- The turn, seen without registries. -/
def Turn.bare {α : Type} (turn : Turn α) : Turn α := ⟨turn.rig.bare, turn.answer, turn.effects⟩

namespace Rig

theorem devices_bare (rig : Rig) (i : Nat) : rig.bare.devices i = rig.devices i := by
  cases h : rig.machines[i]? with
  | none => simp only [devices, h, bare_missing h]
  | some machine =>
    simp only [devices, h, bare_machine h]
    rfl

theorem led_bare (rig : Rig) (owner : Nat) (command : Led.Command) :
    rig.bare.led owner command = (rig.led owner command).bare := by
  cases hm : rig.machines[owner]? with
  | none =>
    simp only [led, hm, bare_missing hm]
    rfl
  | some machine =>
    have hbank : rig.bare.bankOf? machine.bare = rig.bankOf? machine := rfl
    simp only [led, hm, bare_machine hm, hbank]
    cases rig.bankOf? machine with
    | none => rfl
    | some bank =>
      have hdevices : machine.bare.devices = machine.devices := rfl
      simp only [hdevices]
      cases command.perform bank.2 machine.devices <;> rfl

theorem tally_bare (rig : Rig) (origin : Origin) :
    rig.bare.tally origin = (rig.tally origin).bare := by
  cases hm : rig.machines[origin.machine]? with
  | none =>
    simp only [tally, hm, bare_missing hm]
    rfl
  | some home =>
    simp only [tally, hm, bare_machine hm, Turn.bare, putMachine_bare]
    rfl

theorem finish_bare {α β : Type} (turn : Turn α) (form : α → β) (noted : α → List Notice) :
    turn.bare.finish form noted = (turn.finish form noted).bare := rfl

/-- An entry does its work without a look at any registry. -/
theorem dispatch_bare (rig : Rig) (entry : Entry) (number : CallNumber) (arguments : Arguments) :
    rig.bare.dispatch entry number arguments = (rig.dispatch entry number arguments).bare := by
  obtain ⟨origin, handler⟩ := entry
  cases handler with
  | led operation owner =>
    simp only [dispatch, ledCall_eq, led_bare, finish_bare]
  | capability query owner =>
    simp only [dispatch, devices_bare]
    rfl
  | version => rfl
  | platform id => rfl
  | custom routine =>
    cases routine with
    | counter =>
      simp only [dispatch, tally_bare]
      rfl
    | _ => rfl

/-- A request about boards, banks and platforms is served without a look at any registry. -/
theorem step_bare (rig : Rig) (self : Nat) {request : Request} (h : request.bookless = true) :
    rig.bare.step ⟨self, request⟩ = (rig.step ⟨self, request⟩).bare := by
  cases hm : rig.machines[self]? with
  | none =>
    rw [step_of_missing hm, step_of_missing (bare_missing hm)]
    rfl
  | some machine =>
    rw [step_of_machine hm, step_of_machine (bare_machine hm)]
    have hupdate : ∀ (change : Machine) (notices : List Notice) (reply : Reply),
        rig.bare.update self (change.bare, notices) reply =
          (rig.update self (change, notices) reply).bare := by
      intro change notices reply
      simp only [update, Turn.bare, putMachine_bare]
      rfl
    have htell : ∀ reply, rig.bare.tell reply = (rig.tell reply).bare := fun _ => rfl
    have hbanks : rig.bare.banks = rig.banks := rfl
    cases request with
    | setBoard image =>
      cases image with
      | none => exact hupdate { machine with board := none } _ _
      | some bytes =>
        simp only [serve, setBoard, Machine.setBoard]
        cases Board.decode bytes with
        | error error => exact htell _
        | ok board => exact hupdate { machine with board := some board } _ _
    | setBank bank =>
      simp only [serve, hbanks]
      split
      · exact hupdate { machine with bank := bank } _ _
      · exact htell _
    | platform =>
      have hplatform : machine.bare.platform = machine.platform := rfl
      simp only [serve, hplatform]
      split <;> exact htell _
    | led command =>
      show rig.bare.ledCommand self command = (rig.ledCommand self command).bare
      rw [ledCommand_eq, ledCommand_eq, led_bare, finish_bare]
    | levels bank =>
      simp only [serve, hbanks]
      split <;> exact htell _
    | drive bank handle level =>
      simp only [serve, hbanks]
      split
      · exact htell _
      · rfl
    | find kind role index => exact htell _
    | findDefault kind role => exact htell _
    | countDevices kind => exact htell _
    | devices => exact htell _
    | hasBoard => exact htell _
    | _ => cases h

/-- A step that replaces an entry changes nothing but a registry. -/
theorem bare_of_replaces {rig : Rig} {step : Step} {machine : Nat} {number : CallNumber}
    (h : rig.Replaces step machine number) : (rig.step step).rig.bare = rig.bare := by
  obtain ⟨self, request⟩ := step
  obtain ⟨rfl, h⟩ := h
  cases hm : rig.machines[machine]? with
  | none => rw [step_of_missing hm]; rfl
  | some found =>
    have hupdate : ∀ (change : Machine × List Notice) (reply : Reply), change.1.bare = found.bare →
        (rig.update machine change reply).rig.bare = rig.bare := by
      intro change reply hsame
      simp only [update, putMachine_bare, hsame]
      exact putMachine_self (bare_machine hm)
    rw [step_of_machine hm]
    cases request with
    | registerStandard =>
      simp only [serve]
      split
      · rfl
      · refine hupdate _ _ ?_
        rw [Machine.registerStandard_eq]
        exact Machine.installAll_bare _ _ _
    | registerLed source =>
      simp only [serve]
      split
      · exact hupdate _ _ (Machine.installAll_bare found machine (Handler.ledSet source))
      · rfl
    | registerCapability source platform =>
      simp only [serve]
      split
      · exact hupdate _ _
          (Machine.installAll_bare found machine (Handler.capabilitySet source platform))
      · rfl
    | register number routine =>
      cases routine with
      | none => rfl
      | some routine => exact hupdate _ _ rfl
    | registerRoutine number routine => exact hupdate _ _ rfl
    | copy copied target source =>
      simp only [serve, copy]
      split
      · split
        · rfl
        · exact hupdate _ _ rfl
      · rfl
    | unregister gone => exact hupdate _ _ rfl
    | clear => exact hupdate _ _ rfl
    | _ => cases h

/-- What a report tells of a step, without the size of a registry. -/
def told (report : Report) : Reply × List Effect := (report.reply, report.effects)

/-- A later step that has nothing to do with what a step replaces: it concerns no registry, or it
calls another entry. -/
def Spares (rig : Rig) (step later : Step) : Prop :=
  later.request.bookless = true ∨ ∃ number arguments,
    later.request.call? = some (number, arguments) ∧ ¬ rig.Replaces step later.machine number

/-- Neither a call nor a request that concerns no registry replaces an entry. -/
theorem not_replaces {rig : Rig} {later : Step}
    (h : later.request.bookless = true ∨ later.request.call?.isSome = true) (machine : Nat)
    (number : CallNumber) : ¬ rig.Replaces later machine number := by
  rintro ⟨-, hreplaces⟩
  obtain ⟨self, request⟩ := later
  cases request with
  | invoke number arguments => cases hreplaces
  | tryInvoke number arguments => cases hreplaces
  | _ =>
    -- a request is about a registry, and then it is not among those of `h`, or it installs nothing
    rcases h with h | h
    · first
        | exact absurd h Bool.false_ne_true
        | cases hreplaces
    · cases h

section Alike

variable {one other : Rig} (hbare : one.bare = other.bare)

include hbare in
/-- A call of one entry is the same in rigs that differ in their registries. -/
theorem step_call_alike {later : Step} {number : CallNumber} {arguments : Arguments}
    (hc : later.request.call? = some (number, arguments))
    (hl : one.lookup later.machine number = other.lookup later.machine number) :
    (one.step later).bare = (other.step later).bare := by
  cases hentry : one.lookup later.machine number with
  | some entry =>
    have hdispatch : (one.dispatch entry number arguments).bare =
        (other.dispatch entry number arguments).bare := by
      rw [← dispatch_bare, hbare, dispatch_bare]
    obtain ⟨hrig, hanswer, heffects⟩ := Turn.mk.inj hdispatch
    rw [step_of_call hc hentry, step_of_call hc (hl ▸ hentry), Turn.bare, Turn.bare, hrig, hanswer,
      heffects]
  | none =>
    have hfilter : one.bare.filter = other.bare.filter := by rw [hbare]
    have hwrite : ∀ noted, one.write noted = other.write noted := write_congr hfilter
    -- there is no entry in either rig, or no machine in either
    obtain ⟨self, request⟩ := later
    cases hone : one.machines[self]? with
    | none =>
      have hother : other.machines[self]? = none := by
        have hnone := bare_missing hone
        rw [hbare, bare, List.getElem?_map] at hnone
        exact Option.map_eq_none_iff.1 hnone
      rw [step_of_missing hone, step_of_missing hother]
      exact congrArg (Turn.mk · _ _) hbare
    | some machine =>
      have hsome := bare_machine hone
      rw [hbare, bare, List.getElem?_map] at hsome
      obtain ⟨another, hother, -⟩ := Option.map_eq_some_iff.1 hsome
      cases request with
      | invoke n a =>
        cases hc
        rw [(step_of_absent hone hentry arguments).1,
          (step_of_absent hother (hl ▸ hentry) arguments).1, hwrite]
        exact congrArg (Turn.mk · _ _) hbare
      | tryInvoke n a =>
        cases hc
        rw [(step_of_absent hone hentry arguments).2,
          (step_of_absent hother (hl ▸ hentry) arguments).2]
        exact congrArg (Turn.mk · _ _) hbare
      | _ => cases hc

include hbare in
/-- Rigs that differ in their registries report the same of calls whose entries they share, and of
requests that concern no registry. Such steps keep the registries and what the rigs share. -/
theorem run_alike {rest : List Step} (h : ∀ later ∈ rest, later.request.bookless = true ∨
      ∃ number arguments, later.request.call? = some (number, arguments) ∧
        one.lookup later.machine number = other.lookup later.machine number) :
    (one.run rest).map told = (other.run rest).map told := by
  induction rest generalizing one other with
  | nil => rfl
  | cons later rest ih =>
    have hlater := h later List.mem_cons_self
    have hstep : (one.step later).bare = (other.step later).bare := by
      rcases hlater with hbookless | ⟨number, arguments, hc, hl⟩
      · obtain ⟨self, request⟩ := later
        rw [← step_bare one self hbookless, hbare, step_bare other self hbookless]
      · exact step_call_alike hbare hc hl
    have hkind : later.request.bookless = true ∨ later.request.call?.isSome = true :=
      hlater.imp_right fun ⟨_, _, hc, _⟩ => by rw [hc]; rfl
    have hkept : ∀ (rig : Rig) (machine : Nat) (number : CallNumber),
        (rig.step later).rig.lookup machine number = rig.lookup machine number :=
      fun rig machine number => lookup_of_kept (not_replaces hkind machine number)
    obtain ⟨hrig, hanswer, heffects⟩ := Turn.mk.inj hstep
    have hrest := ih hrig fun next hnext => by
      rcases h next (List.mem_cons_of_mem _ hnext) with hbookless | ⟨number, arguments, hc, hl⟩
      · exact Or.inl hbookless
      · refine Or.inr ⟨number, arguments, hc, ?_⟩
        rw [hkept, hkept, hl]
    rw [run, run, List.map_cons, List.map_cons, hrest, told, told, hanswer, heffects]

end Alike

/-- A step that replaces an entry does not change what is told of later steps that have nothing to
do with what it replaces. -/
theorem run_of_spares {rig : Rig} {step : Step} {machine : Nat} {number : CallNumber}
    (h : rig.Replaces step machine number) {rest : List Step}
    (hrest : ∀ later ∈ rest, rig.Spares step later) :
    ((rig.step step).rig.run rest).map told = (rig.run rest).map told := by
  refine run_alike (bare_of_replaces h) fun later hlater => ?_
  rcases hrest later hlater with hbookless | ⟨called, arguments, hc, hspared⟩
  · exact Or.inl hbookless
  · exact Or.inr ⟨called, arguments, hc, lookup_of_kept hspared⟩

end Rig

end Switchboard
