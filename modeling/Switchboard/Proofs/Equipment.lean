import Switchboard.Proofs.Provenance

/-!
# What standard calls work with

A standard call that finds its standard handler works with its machine's platform and board and
with the bank that the machine points at, and with nothing else of its session. Machines that are
equipped alike tell the same of such a call, ask their banks the same, and are equipped alike
afterwards, in whatever rigs they are and whatever was done there before.
-/
namespace Switchboard

/-- The numbers that a runtime answers of its own. -/
def standardNumbers : List CallNumber :=
  [.ledOn, .ledOff, .ledToggle, .ledSet, .ledGet, .capCount, .capExists, .capFlags, .capHandle,
    .sysVersion, .sysPlatform]

theorem standardNumbers_nodup : standardNumbers.Nodup := by decide

theorem standardNumbers_eq :
    standardNumbers = Handler.ledNumbers ++ Handler.capabilityNumbers := rfl

theorem standard_cases {number : CallNumber} (h : number ∈ standardNumbers) :
    (∃ operation : Led.Operation, number = operation.number) ∨
      (∃ query : Capability.Query, number = query.number) ∨
      number = .sysVersion ∨ number = .sysPlatform := by
  rw [standardNumbers_eq] at h
  rcases List.mem_append.1 h with hled | hcapability
  · obtain ⟨operation, -, rfl⟩ := List.mem_map.1 hled
    exact .inl ⟨operation, rfl⟩
  · rcases List.mem_append.1 hcapability with hquery | hfixed
    · obtain ⟨query, -, rfl⟩ := List.mem_map.1 hquery
      exact .inr (.inl ⟨query, rfl⟩)
    · exact .inr (.inr (by simpa using hfixed))

/-- Requests that concern a registry: they put something in, or take something out. -/
def Request.files : Request → Bool
  | .registerStandard => true
  | .registerLed _ => true
  | .registerCapability _ _ => true
  | .register _ _ => true
  | .registerRoutine _ _ => true
  | .copy _ _ _ => true
  | .unregister _ => true
  | .clear => true
  | _ => false

/-- Of all steps on the registry of a machine, the only one registers everything. -/
def OnlyStandard (self : Nat) (steps : List Step) : Prop :=
  ∃ before after, steps = before ++ ⟨self, .registerStandard⟩ :: after ∧
    ∀ step ∈ before ++ after, step.machine = self → step.request.files = false

/-- What a machine has apart from its registry. -/
structure Equipment where
  platform : Option Int32
  board : Option Board
  /-- How the bank behaves and which levels its pins have, not where the bank is. -/
  bank : Option PinBank
  deriving DecidableEq

/-- What an effect is, whichever bank is asked. -/
def Effect.act : Effect → PinCall ⊕ Notice
  | .pin _ call => .inl call
  | .notice noted => .inr noted

theorem Machine.installAll_platform (machine : Machine) (self : Nat)
    (handlers : List (CallNumber × Handler)) :
    (machine.installAll self handlers).1.platform = machine.platform := by
  rw [installAll_eq]

namespace Rig

def platform? (rig : Rig) (self : Nat) : Option Int32 :=
  (rig.machines[self]?).bind (·.platform)

def equipment? (rig : Rig) (self : Nat) : Option Equipment :=
  (rig.machines[self]?).map fun found =>
    ⟨found.platform, found.board, (rig.bankOf? found).map Prod.snd⟩

/-- Until the steps are done, only registering everything replaces a standard handler. -/
def KeepsStandard (rig : Rig) (self : Nat) : List Step → Prop
  | [] => True
  | step :: rest =>
    (step = ⟨self, .registerStandard⟩ ∨
      ∀ number ∈ standardNumbers, ¬ rig.Replaces step self number) ∧
    (rig.step step).rig.KeepsStandard self rest

theorem files_of_replaces {rig : Rig} {step : Step} {self : Nat} {number : CallNumber}
    (h : rig.Replaces step self number) : step.machine = self ∧ step.request.files = true := by
  obtain ⟨machine, request⟩ := step
  obtain ⟨rfl, h⟩ := h
  refine ⟨rfl, ?_⟩
  cases request with
  | registerStandard => rfl
  | registerLed source => rfl
  | registerCapability source platform => rfl
  | register number routine => rfl
  | registerRoutine number routine => rfl
  | copy number target source => rfl
  | unregister number => rfl
  | clear => rfl
  | _ => cases h

section Platform

variable {rig : Rig} {self : Nat} {machine : Machine}

private theorem update_platform (hm : rig.machines[self]? = some machine)
    {change : Machine × List Notice} (h : change.1.platform = machine.platform) (reply : Reply)
    (i : Nat) : (rig.update self change reply).rig.machines[i]?.map Machine.platform =
      rig.machines[i]?.map Machine.platform :=
  putMachine_map Machine.platform hm fun _ => h

theorem serve_platform (hm : rig.machines[self]? = some machine) (request : Request) (i : Nat) :
    (rig.serve self machine request).rig.machines[i]?.map Machine.platform =
      rig.machines[i]?.map Machine.platform := by
  cases request with
  | setBoard image =>
    cases h : machine.setBoard image with
    | error error => simp only [serve, setBoard, h, tell]
    | ok found =>
      obtain ⟨after, notice⟩ := found
      obtain ⟨board, rfl⟩ := Machine.setBoard_ok h
      simp only [serve, setBoard, h]
      exact update_platform hm rfl _ i
  | setBank bank =>
    simp only [serve]
    split
    · exact update_platform hm rfl _ i
    · rfl
  | registerStandard =>
    simp only [serve]
    split
    · rfl
    · refine update_platform hm ?_ _ i
      rw [Machine.registerStandard_eq, Machine.installAll_platform]
  | registerLed source =>
    simp only [serve]
    split
    · exact update_platform hm (machine.installAll_platform self (Handler.ledSet source)) .nothing i
    · rfl
  | registerCapability source platform =>
    simp only [serve]
    split
    · exact update_platform hm
        (machine.installAll_platform self (Handler.capabilitySet source platform)) .nothing i
    · rfl
  | invoke number arguments =>
    exact invoke_keeps Machine.platform (fun _ _ => rfl) rig self number arguments i
  | tryInvoke number arguments =>
    change (rig.tryCall self number arguments).rig.machines[i]?.map Machine.platform = _
    rw [tryCall_eq, Turn.finish_rig, tryInvoke_keeps Machine.platform fun _ _ => rfl]
  | register number routine =>
    cases routine with
    | none => rfl
    | some routine => exact update_platform hm rfl _ i
  | registerRoutine number routine => exact update_platform hm rfl _ i
  | copy number target source =>
    simp only [serve, copy]
    split
    · split
      · rfl
      · exact update_platform hm rfl _ i
    · rfl
  | same number target source =>
    simp only [serve]
    split <;> rfl
  | unregister number => exact update_platform hm rfl _ i
  | clear => exact update_platform hm rfl _ i
  | platform =>
    simp only [serve]
    split <;> rfl
  | led command =>
    change (rig.ledCommand self command).rig.machines[i]?.map Machine.platform = _
    rw [ledCommand_eq, Turn.finish_rig, led_machines]
  | levels bank =>
    simp only [serve]
    split <;> rfl
  | drive bank handle level =>
    simp only [serve]
    split <;> rfl
  | _ => rfl

/-- No step tells a machine another platform. -/
theorem platform_step (rig : Rig) (step : Step) (i : Nat) :
    (rig.step step).rig.platform? i = rig.platform? i := by
  have hview : (rig.step step).rig.machines[i]?.map Machine.platform =
      rig.machines[i]?.map Machine.platform := by
    obtain ⟨self, request⟩ := step
    cases hm : rig.machines[self]? with
    | none =>
      rw [step_of_missing hm]
      rfl
    | some machine =>
      rw [step_of_machine hm]
      exact serve_platform hm request i
  have hbound := congrArg (Option.bind · id) hview
  simp only [Option.bind_map] at hbound
  exact hbound

theorem platform_after (rig : Rig) (steps : List Step) (i : Nat) :
    (rig.after steps).platform? i = rig.platform? i := by
  induction steps generalizing rig with
  | nil => rfl
  | cons step rest ih => rw [after_cons, ih, platform_step]

end Platform

section Offers

variable {rig : Rig} {self : Nat} {platform : Int32}

theorem platform?_of_machine {machine : Machine} (hm : rig.machines[self]? = some machine) :
    rig.platform? self = machine.platform := by
  rw [platform?, hm, Option.bind_some]

theorem offers_of_platform (hp : rig.platform? self = some platform) :
    (rig.step ⟨self, .registerStandard⟩).rig.Offers self platform := by
  obtain ⟨machine, hm, hplatform⟩ := Option.bind_eq_some_iff.1 hp
  exact offers_of_register hm hplatform

theorem Offers.version (h : rig.Offers self platform) :
    ∃ origin, rig.lookup self .sysVersion = some ⟨origin, .version⟩ :=
  h (.sysVersion, .version)
    (List.mem_append_right _ (List.mem_append_right _ List.mem_cons_self))

theorem Offers.named (h : rig.Offers self platform) :
    ∃ origin, rig.lookup self .sysPlatform = some ⟨origin, .platform platform⟩ :=
  h _ (List.mem_append_right _ (Handler.mem_capabilitySet_platform self platform))

/-- A step that leaves the standard numbers alone leaves their handlers where they are. -/
theorem Offers.kept (h : rig.Offers self platform) {step : Step}
    (hkept : ∀ number ∈ standardNumbers, ¬ rig.Replaces step self number) :
    (rig.step step).rig.Offers self platform := by
  intro item hitem
  have hnumber : item.1 ∈ standardNumbers := List.mem_map_of_mem (f := Prod.fst) hitem
  rw [lookup_of_kept (hkept item.1 hnumber)]
  exact h item hitem

theorem Offers.after (h : rig.Offers self platform) (hp : rig.platform? self = some platform)
    {rest : List Step} (hkeeps : rig.KeepsStandard self rest) :
    (rig.after rest).Offers self platform := by
  induction rest generalizing rig with
  | nil => exact h
  | cons step rest ih =>
    obtain ⟨hstep, hrest⟩ := hkeeps
    refine ih ?_ ((rig.platform_step step self).trans hp) hrest
    rcases hstep with rfl | hkept
    · exact offers_of_platform hp
    · exact h.kept hkept

/-- Steps that are not about the registry of a machine leave its standard handlers alone. -/
theorem keepsStandard_of_idle (rig : Rig) {steps : List Step}
    (h : ∀ step ∈ steps, step.machine = self → step.request.files = false) :
    rig.KeepsStandard self steps := by
  induction steps generalizing rig with
  | nil => trivial
  | cons step rest ih =>
    refine ⟨.inr fun number _ hreplaces => ?_, ih _ fun later hl => h later (.tail _ hl)⟩
    obtain ⟨hmachine, hfiles⟩ := files_of_replaces hreplaces
    rw [h step List.mem_cons_self hmachine] at hfiles
    cases hfiles

/-- One registration of everything is enough, with whatever other steps before and after. -/
theorem offers_of_onlyStandard {start : Rig} {steps : List Step} (h : OnlyStandard self steps)
    (hp : (start.after steps).platform? self = some platform) :
    (start.after steps).Offers self platform := by
  obtain ⟨before, after, rfl, hidle⟩ := h
  rw [platform_after] at hp
  have hbefore : (start.after before).platform? self = some platform :=
    (start.platform_after before self).trans hp
  rw [after_append, after_cons]
  refine (offers_of_platform hbefore).after ?_ (keepsStandard_of_idle _ fun step hstep =>
    hidle step (List.mem_append_right _ hstep))
  rw [platform_step, hbefore]

end Offers

/-- Turns of two machines that tell the same, ask the same and leave the machines equipped alike.
Under one filter they write the same, too, and at the same points. -/
structure SameWork (here there : Nat) {α : Type} (turn its : Turn α) : Prop where
  answer : its.answer = turn.answer
  calls : (its.effects.filterMap Effect.call?).map Prod.snd =
    (turn.effects.filterMap Effect.call?).map Prod.snd
  effects : its.rig.filter = turn.rig.filter →
    its.effects.map Effect.act = turn.effects.map Effect.act
  equipment : its.rig.equipment? there = turn.rig.equipment? here

/-- Turns with the same effects make the same calls. -/
theorem SameWork.of_effects {here there : Nat} {α : Type} {turn its : Turn α}
    (hanswer : its.answer = turn.answer)
    (heffects : its.effects.map Effect.act = turn.effects.map Effect.act)
    (hequipment : its.rig.equipment? there = turn.rig.equipment? here) :
    SameWork here there turn its := by
  refine ⟨hanswer, ?_, fun _ => heffects, hequipment⟩
  have hasked : Option.map Prod.snd ∘ Effect.call? = Sum.getLeft? ∘ Effect.act :=
    funext fun effect => by cases effect <;> rfl
  have hcalls : ∀ effects : List Effect, (effects.filterMap Effect.call?).map Prod.snd =
      (effects.map Effect.act).filterMap Sum.getLeft? := by
    intro effects
    rw [List.map_filterMap, List.filterMap_map, ← hasked]
    rfl
  rw [hcalls, hcalls, heffects]

theorem SameWork.finish {here there : Nat} {α β : Type} {turn its : Turn α}
    (h : SameWork here there turn its) (form : α → β) (noted : α → List Notice) :
    SameWork here there (turn.finish form noted) (its.finish form noted) := by
  refine ⟨?_, ?_, fun hfilter => ?_, h.equipment⟩
  · rw [Turn.finish, Turn.finish, h.answer]
  · rw [Turn.finish_calls, Turn.finish_calls, h.calls]
  · rw [Turn.finish_rig, Turn.finish_rig] at hfilter
    rw [Turn.finish, Turn.finish, List.map_append, List.map_append, h.effects hfilter, h.answer,
      write_congr hfilter]

section Equipped

variable {rig other : Rig} {self it : Nat}

theorem equipment?_of_machine {machine : Machine} (hm : rig.machines[self]? = some machine) :
    rig.equipment? self =
      some ⟨machine.platform, machine.board, (rig.bankOf? machine).map Prod.snd⟩ := by
  rw [equipment?, hm, Option.map_some]

theorem exists_of_equipment {machine : Machine} (hm : rig.machines[self]? = some machine)
    (h : other.equipment? it = rig.equipment? self) :
    ∃ its, other.machines[it]? = some its ∧ its.platform = machine.platform ∧
      its.board = machine.board ∧
      (other.bankOf? its).map Prod.snd = (rig.bankOf? machine).map Prod.snd := by
  rw [equipment?_of_machine hm] at h
  obtain ⟨its, hits, hsame⟩ := Option.map_eq_some_iff.1 h
  obtain ⟨hplatform, hboard, hbank⟩ := Equipment.mk.inj hsame
  exact ⟨its, hits, hplatform, hboard, hbank⟩

/-- A machine still points at its bank when the bank is replaced. -/
theorem equipment_of_putBank {machine : Machine} (hm : rig.machines[self]? = some machine)
    {position : Nat} {bank : PinBank} (hbank : rig.bankOf? machine = some (position, bank))
    (put : PinBank) :
    (rig.putBank position put).equipment? self =
      some ⟨machine.platform, machine.board, some put⟩ := by
  obtain ⟨hp, hb⟩ := (bankOf?_eq_some_iff rig machine position bank).1 hbank
  have hlt := (List.getElem?_eq_some_iff.1 hb).1
  have hput : (rig.putBank position put).bankOf? machine = some (position, put) := by
    rw [bankOf?_eq_some_iff, putBank_banks, List.getElem?_set_self hlt]
    exact ⟨hp, rfl⟩
  have hkept : (rig.putBank position put).machines[self]? = some machine := hm
  rw [equipment?_of_machine hkept, hput, Option.map_some]

theorem platform_of_equipment (h : other.equipment? it = rig.equipment? self) :
    other.platform? it = rig.platform? self := by
  have hplatform : ∀ (rig : Rig) (i : Nat),
      rig.platform? i = (rig.equipment? i).bind (·.platform) := by
    intro rig i
    rw [platform?, equipment?, Option.bind_map]
    rfl
  rw [hplatform, hplatform, h]

theorem devices_of_equipment (h : other.equipment? it = rig.equipment? self) :
    other.devices it = rig.devices self := by
  have hboard : ∀ (rig : Rig) (i : Nat),
      rig.devices i = ((rig.equipment? i).bind (·.board)).getD [] := by
    intro rig i
    cases hm : rig.machines[i]? with
    | none => simp only [devices, equipment?, hm, Option.map_none, Option.bind_none,
        Option.getD_none]
    | some machine => simp only [devices, equipment?, hm, Option.map_some, Option.bind_some,
        Machine.devices]
  rw [hboard, hboard, h]

/-- A command is the same work on machines that are equipped alike. -/
theorem led_of_equipment (h : other.equipment? it = rig.equipment? self)
    (command : Led.Command) :
    SameWork self it (rig.led self command) (other.led it command) := by
  cases hm : rig.machines[self]? with
  | none =>
    have hits : other.machines[it]? = none := by
      rw [equipment?, equipment?, hm] at h
      exact Option.map_eq_none_iff.1 h
    simp only [led, hm, hits]
    exact .of_effects rfl rfl h
  | some machine =>
    obtain ⟨its, hits, hplatform, hboard, hbank⟩ := exists_of_equipment hm h
    have hdevices : its.devices = machine.devices := by
      rw [Machine.devices, Machine.devices, hboard]
    cases hown : rig.bankOf? machine with
    | none =>
      rw [hown] at hbank
      have hnone := Option.map_eq_none_iff.1 hbank
      simp only [led, hm, hits, hown, hnone]
      exact .of_effects rfl rfl h
    | some found =>
      obtain ⟨position, bank⟩ := found
      rw [hown] at hbank
      obtain ⟨⟨place, asked⟩, htheirs, heq⟩ := Option.map_eq_some_iff.1 hbank
      obtain rfl : asked = bank := heq
      simp only [led, hm, hits, hown, htheirs, hdevices]
      cases command.perform asked machine.devices with
      | error error => exact .of_effects rfl rfl h
      | ok motion =>
        refine .of_effects rfl ?_ ?_
        · simp only [List.map_map]
          rfl
        · simp only
          rw [equipment_of_putBank hits htheirs, equipment_of_putBank hm hown, hplatform, hboard]

variable {platform : Int32} {request : Request} {number : CallNumber} {arguments : Arguments}

/-- A call is the same work if its handlers do the same. -/
theorem sameWork_of_dispatch {entry its : Entry} (hc : request.call? = some (number, arguments))
    (hl : rig.lookup self number = some entry) (hits : other.lookup it number = some its)
    (h : SameWork self it (rig.dispatch entry number arguments)
      (other.dispatch its number arguments)) :
    SameWork self it (rig.step ⟨self, request⟩) (other.step ⟨it, request⟩) := by
  have hstep : rig.step ⟨self, request⟩ = _ := step_of_call hc hl
  have hstep' : other.step ⟨it, request⟩ = _ := step_of_call hc hits
  rw [hstep, hstep']
  exact ⟨congrArg Reply.value h.answer, h.calls, h.effects, h.equipment⟩

/-- A standard call is the same work on machines that are equipped alike. -/
theorem Offers.step_eq (h : rig.Offers self platform) (hits : other.Offers it platform)
    (heq : other.equipment? it = rig.equipment? self)
    (hc : request.call? = some (number, arguments)) (hn : number ∈ standardNumbers) :
    SameWork self it (rig.step ⟨self, request⟩) (other.step ⟨it, request⟩) := by
  rcases standard_cases hn with ⟨operation, rfl⟩ | ⟨query, rfl⟩ | rfl | rfl
  · obtain ⟨origin, hl⟩ := Standard.led ⟨platform, h⟩ operation
    obtain ⟨origin', hl'⟩ := Standard.led ⟨platform, hits⟩ operation
    refine sameWork_of_dispatch hc hl hl' ?_
    simp only [dispatch, ledCall_eq]
    exact (led_of_equipment heq _).finish _ _
  · obtain ⟨origin, hl⟩ := Standard.capability ⟨platform, h⟩ query
    obtain ⟨origin', hl'⟩ := Standard.capability ⟨platform, hits⟩ query
    refine sameWork_of_dispatch hc hl hl' ?_
    simp only [dispatch, devices_of_equipment heq]
    exact .of_effects rfl rfl heq
  · obtain ⟨origin, hl⟩ := h.version
    obtain ⟨origin', hl'⟩ := hits.version
    exact sameWork_of_dispatch hc hl hl' (.of_effects rfl rfl heq)
  · obtain ⟨origin, hl⟩ := h.named
    obtain ⟨origin', hl'⟩ := hits.named
    exact sameWork_of_dispatch hc hl hl' (.of_effects rfl rfl heq)

/-- A command asks the bank that its machine points at and no other. -/
theorem led_bank {machine : Machine} (hm : rig.machines[self]? = some machine)
    (command : Led.Command) :
    ∀ call ∈ (rig.led self command).effects.filterMap Effect.call?,
      machine.bank = some call.1 := by
  intro call hcall
  rcases rig.led_cases self command with ⟨error, -, hled⟩ | ⟨found, position, bank, device, hfound,
    hp, -, -, hled⟩
  · rw [hled] at hcall
    cases hcall
  · obtain rfl : found = machine := Option.some.inj (hfound.symm.trans hm)
    rw [hled] at hcall
    obtain ⟨effect, heffect, hasked⟩ := List.mem_filterMap.1 hcall
    obtain ⟨made, -, rfl⟩ := List.mem_map.1 heffect
    cases hasked
    exact hp

/-- What a standard call asks, it asks the bank that its machine points at. -/
theorem Offers.step_bank (h : rig.Offers self platform) {machine : Machine}
    (hm : rig.machines[self]? = some machine)
    (hc : request.call? = some (number, arguments)) (hn : number ∈ standardNumbers) :
    ∀ call ∈ (rig.step ⟨self, request⟩).effects.filterMap Effect.call?,
      machine.bank = some call.1 := by
  have hsilent : ∀ {entry : Entry}, rig.lookup self number = some entry →
      (rig.dispatch entry number arguments).effects = [] →
      ∀ call ∈ (rig.step ⟨self, request⟩).effects.filterMap Effect.call?,
        machine.bank = some call.1 := by
    intro entry hl hnone call hcall
    have hstep : rig.step ⟨self, request⟩ = _ := step_of_call hc hl
    rw [hstep] at hcall
    simp only [hnone] at hcall
    cases hcall
  rcases standard_cases hn with ⟨operation, rfl⟩ | ⟨query, rfl⟩ | rfl | rfl
  · obtain ⟨origin, hl⟩ := Standard.led ⟨platform, h⟩ operation
    have hstep : rig.step ⟨self, request⟩ = _ := step_of_call hc hl
    rw [hstep]
    simp only [dispatch, ledCall_eq, Turn.finish_calls]
    exact led_bank hm _
  · obtain ⟨origin, hl⟩ := Standard.capability ⟨platform, h⟩ query
    exact hsilent hl rfl
  · obtain ⟨origin, hl⟩ := h.version
    exact hsilent hl rfl
  · obtain ⟨origin, hl⟩ := h.named
    exact hsilent hl rfl

end Equipped

end Rig

end Switchboard
