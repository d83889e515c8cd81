import Switchboard.Proofs.Turn

/-!
# Two sides of a rig

Machines and banks are shared out between two sides. A step that names no machine and no bank of
the other side changes at most one machine or one bank of its own, and what it leaves there is
made and worked on that side alone: this is what every step keeps. What the other side looks like
is blanked out by `Split.part`; which machines and banks exist is not hidden, and no step
changes that.
-/
namespace Switchboard

/-- The machines that a request names besides the one it addresses. -/
def Request.sources : Request → List Nat
  | .registerLed source => [source]
  | .registerCapability source _ => [source]
  | .copy _ _ source => [source]
  | .same _ _ source => [source]
  | _ => []

/-- The banks that a request names. -/
def Request.banks : Request → List Nat
  | .setBank bank => bank.toList
  | .levels bank => [bank]
  | .drive bank _ _ => [bank]
  | _ => []

/-- The machine on whose board and bank a handler works. -/
def Handler.owner? : Handler → Option Nat
  | .led _ owner => some owner
  | .capability _ owner => some owner
  | _ => none

/-- Shares out the machines and the banks of a rig between two sides. -/
structure Split where
  machine : Nat → Bool
  bank : Nat → Bool

namespace Split

def owns (split : Split) (side : Bool) (step : Step) : Bool := split.machine step.machine == side

/-- A step stays on the side of the machine that it addresses. -/
structure Respects (split : Split) (step : Step) : Prop where
  sources : ∀ source ∈ step.request.sources, split.machine source = split.machine step.machine
  banks : ∀ bank ∈ step.request.banks, split.bank bank = split.machine step.machine

instance (split : Split) (step : Step) : Decidable (split.Respects step) :=
  decidable_of_iff
    ((∀ source ∈ step.request.sources, split.machine source = split.machine step.machine) ∧
      ∀ bank ∈ step.request.banks, split.bank bank = split.machine step.machine)
    ⟨fun h => ⟨h.1, h.2⟩, fun h => ⟨h.sources, h.banks⟩⟩

/-- An entry that was made and is worked on one side. -/
structure Holds (split : Split) (side : Bool) (entry : Entry) : Prop where
  origin : split.machine entry.origin.machine = side
  owner : ∀ owner, entry.handler.owner? = some owner → split.machine owner = side

/-- A machine whose bank and whose entries are all on one side. -/
structure Confines (split : Split) (side : Bool) (machine : Machine) : Prop where
  bank : ∀ position, machine.bank = some position → split.bank position = side
  entries : ∀ number entry, machine.registry.get? number = some entry → split.Holds side entry

/-- Every machine is confined to its own side. -/
def Parts (split : Split) (rig : Rig) : Prop :=
  ∀ i machine, rig.machines[i]? = some machine → split.Confines (split.machine i) machine

/-- The items with numbers on one side; every other is blank. -/
def half {α : Type} (group : Nat → Bool) (side : Bool) (blank : α) (items : List α) : List α :=
  items.mapIdx fun i item => if group i = side then item else blank

/-- The rig with everything on the other side blank. -/
def part (split : Split) (side : Bool) (rig : Rig) : Rig where
  machines := half split.machine side {} rig.machines
  banks := half split.bank side ⟨.sound, .empty⟩ rig.banks
  filter := rig.filter

/-- A turn with everything on the other side blank. -/
def seen {α : Type} (split : Split) (side : Bool) (turn : Turn α) : Turn α :=
  { turn with rig := split.part side turn.rig }

section Half

variable {α : Type} {group : Nat → Bool} {side : Bool} (blank : α) (items : List α) {i : Nat}

theorem half_length : (half group side blank items).length = items.length := List.length_mapIdx

theorem half_get (h : group i = side) : (half group side blank items)[i]? = items[i]? := by
  rw [half, List.getElem?_mapIdx]
  cases items[i]? with
  | none => rfl
  | some item => rw [Option.map_some, if_pos h]

theorem half_set (h : group i = side) (item : α) :
    half group side blank (items.set i item) = (half group side blank items).set i item := by
  rw [half, List.mapIdx_set, if_pos h, half]

/-- An item on the other side may change: it is blank before and after. -/
theorem half_set_other (h : group i ≠ side) (item : α) :
    half group side blank (items.set i item) = half group side blank items := by
  rw [half, List.mapIdx_set, if_neg h]
  apply List.ext_getElem?
  intro j
  rw [List.getElem?_set, List.length_mapIdx]
  by_cases hj : i = j
  · subst hj
    rw [if_pos rfl, half, List.getElem?_mapIdx]
    split
    · rename_i hlt
      rw [List.getElem?_eq_getElem hlt, Option.map_some]
    · rename_i hlt
      rw [List.getElem?_eq_none (by omega), Option.map_none]
  · rw [if_neg hj, half]

end Half

section Part

variable {split : Split} {side : Bool}

theorem part_machines_length (rig : Rig) :
    (split.part side rig).machines.length = rig.machines.length := half_length _ _

theorem part_banks_length (rig : Rig) :
    (split.part side rig).banks.length = rig.banks.length := half_length _ _

theorem part_machine (rig : Rig) {i : Nat} (h : split.machine i = side) :
    (split.part side rig).machines[i]? = rig.machines[i]? := half_get _ _ h

theorem part_bank (rig : Rig) {i : Nat} (h : split.bank i = side) :
    (split.part side rig).banks[i]? = rig.banks[i]? := half_get _ _ h

theorem part_putMachine (rig : Rig) {i : Nat} (h : split.machine i = side) (machine : Machine) :
    split.part side (rig.putMachine i machine) = (split.part side rig).putMachine i machine := by
  simp only [part, Rig.putMachine, half_set _ _ h]

theorem part_putBank (rig : Rig) {i : Nat} (h : split.bank i = side) (bank : PinBank) :
    split.part side (rig.putBank i bank) = (split.part side rig).putBank i bank := by
  simp only [part, Rig.putBank, half_set _ _ h]

theorem part_putMachine_other (rig : Rig) {i : Nat} (h : split.machine i ≠ side)
    (machine : Machine) : split.part side (rig.putMachine i machine) = split.part side rig := by
  simp only [part, Rig.putMachine, half_set_other _ _ h]

theorem part_putBank_other (rig : Rig) {i : Nat} (h : split.bank i ≠ side) (bank : PinBank) :
    split.part side (rig.putBank i bank) = split.part side rig := by
  simp only [part, Rig.putBank, half_set_other _ _ h]

theorem part_lookup (rig : Rig) {i : Nat} (h : split.machine i = side) (number : CallNumber) :
    (split.part side rig).lookup i number = rig.lookup i number := by
  rw [Rig.lookup_eq, Rig.lookup_eq, part_machine rig h]

theorem part_devices (rig : Rig) {i : Nat} (h : split.machine i = side) :
    (split.part side rig).devices i = rig.devices i := by
  simp only [Rig.devices, part_machine rig h]

theorem part_registered (rig : Rig) {i : Nat} (h : split.machine i = side) :
    (split.part side rig).registered i = rig.registered i := by
  simp only [Rig.registered, part_machine rig h]

theorem part_bankOf? (rig : Rig) {machine : Machine} (h : split.Confines side machine) :
    (split.part side rig).bankOf? machine = rig.bankOf? machine := by
  apply Option.ext
  rintro ⟨position, bank⟩
  rw [Rig.bankOf?_eq_some_iff, Rig.bankOf?_eq_some_iff]
  refine and_congr_right fun hb => ?_
  rw [part_bank rig (h.bank position hb)]

end Part

section Touches

variable {split : Split} {side : Bool}

/-- One rig became the other by changing at most one machine or one bank of a side. -/
inductive Touches (split : Split) (side : Bool) (rig : Rig) : Rig → Prop
  | nothing : Touches split side rig rig
  | machine {i : Nat} {machine : Machine} (hi : split.machine i = side)
      (h : split.Confines side machine) : Touches split side rig (rig.putMachine i machine)
  | bank {i : Nat} {bank : PinBank} (hi : split.bank i = side) :
      Touches split side rig (rig.putBank i bank)

theorem Touches.parts {rig after : Rig} (h : split.Touches side rig after)
    (hparts : split.Parts rig) : split.Parts after := by
  cases h with
  | nothing => exact hparts
  | @machine i machine hi h =>
    intro j other hj
    rw [Rig.putMachine_machines, List.getElem?_set] at hj
    split at hj
    · rename_i hij
      subst hij
      split at hj
      · cases hj
        rw [hi]
        exact h
      · cases hj
    · exact hparts j other hj
  | bank hi => exact hparts

/-- The filter is set once and for all. -/
theorem Touches.filter {rig after : Rig} (h : split.Touches side rig after) :
    after.filter = rig.filter := by
  cases h <;> rfl

/-- The other side does not see what changed. -/
theorem Touches.part_other {rig after : Rig} (h : split.Touches side rig after) {other : Bool}
    (hother : side ≠ other) : split.part other after = split.part other rig := by
  cases h with
  | nothing => rfl
  | machine hi h => exact part_putMachine_other rig (hi.symm ▸ hother) _
  | bank hi => exact part_putBank_other rig (hi.symm ▸ hother) _

theorem Confines.place {machine : Machine} {number : CallNumber} {entry : Entry}
    (h : split.Confines side machine) (he : split.Holds side entry) :
    split.Confines side (machine.place number entry) := by
  refine ⟨h.bank, ?_⟩
  intro k found hk
  rw [Machine.place, SortedMap.get?_insert] at hk
  split at hk
  · cases hk
    exact he
  · exact h.entries k found hk

theorem Confines.install {machine : Machine} {self : Nat} {number : CallNumber} {handler : Handler}
    (h : split.Confines side machine) (hself : split.machine self = side)
    (howner : ∀ owner, handler.owner? = some owner → split.machine owner = side) :
    split.Confines side (machine.install self number handler) := by
  have hplaced : split.Confines side (machine.place number ⟨⟨self, machine.issued⟩, handler⟩) :=
    h.place ⟨hself, howner⟩
  exact ⟨hplaced.bank, hplaced.entries⟩

theorem Confines.installAll {machine : Machine} {self : Nat} (h : split.Confines side machine)
    (hself : split.machine self = side) (handlers : List (CallNumber × Handler))
    (howner : ∀ item ∈ handlers, ∀ owner, item.2.owner? = some owner →
      split.machine owner = side) :
    split.Confines side (machine.installAll self handlers).1 := by
  induction handlers generalizing machine with
  | nil => exact h
  | cons item rest ih =>
    have hfirst : split.Confines side (machine.install self item.1 item.2) :=
      h.install hself (howner item List.mem_cons_self)
    exact ih hfirst fun other ho => howner other (List.mem_cons_of_mem _ ho)

theorem owner_of_mem_ledSet {source owner : Nat} {item : CallNumber × Handler}
    (h : item ∈ Handler.ledSet source) (ho : item.2.owner? = some owner) : owner = source := by
  obtain ⟨operation, -, rfl⟩ := List.mem_map.1 h
  exact (Option.some.inj ho).symm

theorem owner_of_mem_capabilitySet {source owner : Nat} {id : Int32} {item : CallNumber × Handler}
    (h : item ∈ Handler.capabilitySet source id) (ho : item.2.owner? = some owner) :
    owner = source := by
  rcases List.mem_append.1 h with h | h
  · obtain ⟨query, -, rfl⟩ := List.mem_map.1 h
    exact (Option.some.inj ho).symm
  · simp only [List.mem_cons, List.not_mem_nil, or_false] at h
    rcases h with rfl | rfl <;> cases ho

theorem Confines.registerLed {machine : Machine} {self source : Nat}
    (h : split.Confines side machine) (hself : split.machine self = side)
    (hsource : split.machine source = side) :
    split.Confines side (machine.registerLed self source).1 := by
  refine h.installAll hself (Handler.ledSet source) ?_
  intro item hitem owner ho
  rw [owner_of_mem_ledSet hitem ho, hsource]

theorem Confines.registerCapability {machine : Machine} {self source : Nat} {id : Int32}
    (h : split.Confines side machine) (hself : split.machine self = side)
    (hsource : split.machine source = side) :
    split.Confines side (machine.registerCapability self source id).1 := by
  refine h.installAll hself (Handler.capabilitySet source id) ?_
  intro item hitem owner ho
  rw [owner_of_mem_capabilitySet hitem ho, hsource]

theorem Parts.holds {rig : Rig} (hparts : split.Parts rig) {i : Nat} (hi : split.machine i = side)
    {number : CallNumber} {entry : Entry} (h : rig.lookup i number = some entry) :
    split.Holds side entry := by
  rw [Rig.lookup_eq] at h
  obtain ⟨machine, hm, hentry⟩ := Option.bind_eq_some_iff.1 h
  rw [← hi]
  exact (hparts i machine hm).entries number entry hentry

theorem touches_led {rig : Rig} (hparts : split.Parts rig) {owner : Nat}
    (howner : split.machine owner = side) (command : Led.Command) :
    split.Touches side rig (rig.led owner command).rig := by
  rcases rig.led_cases owner command with ⟨e, -, h⟩ | ⟨machine, position, bank, _, hm, hp, -, -, h⟩
  · rw [h]
    exact .nothing
  · rw [h]
    refine .bank ?_
    rw [← howner]
    exact (hparts owner machine hm).bank position hp

theorem touches_tally {rig : Rig} (hparts : split.Parts rig) {origin : Origin}
    (h : split.machine origin.machine = side) :
    split.Touches side rig (rig.tally origin).rig := by
  unfold Rig.tally
  cases hm : rig.machines[origin.machine]? with
  | none => exact .nothing
  | some home =>
    have hhome := hparts origin.machine home hm
    rw [h] at hhome
    exact .machine h ⟨hhome.bank, hhome.entries⟩

theorem touches_tryInvoke {rig : Rig} (hparts : split.Parts rig) {self : Nat}
    (hself : split.machine self = side) (number : CallNumber) (arguments : Arguments) :
    split.Touches side rig (rig.tryInvoke self number arguments).rig := by
  cases hl : rig.lookup self number with
  | none =>
    rw [Rig.tryInvoke_of_absent hl]
    exact .nothing
  | some entry =>
    have hentry := hparts.holds hself hl
    rw [Rig.tryInvoke_of_lookup hl, Turn.finish_rig]
    unfold Rig.dispatch
    split
    · rename_i operation owner hh
      rw [Rig.ledCall_eq, Turn.finish_rig]
      exact touches_led hparts (hentry.owner owner (by rw [hh]; rfl)) _
    · exact .nothing
    · exact .nothing
    · exact .nothing
    · exact touches_tally hparts hentry.origin
    · exact .nothing

/-- A step that stays on its side changes at most one machine or one bank of that side. -/
theorem touches_step {rig : Rig} (hparts : split.Parts rig) {step : Step}
    (hr : split.Respects step) :
    split.Touches (split.machine step.machine) rig (rig.step step).rig := by
  obtain ⟨self, request⟩ := step
  cases hm : rig.machines[self]? with
  | none =>
    rw [Rig.step_of_missing hm]
    exact .nothing
  | some machine =>
    have hconf := hparts self machine hm
    rw [Rig.step_of_machine hm]
    cases request with
    | setBoard image =>
      change split.Touches _ _ (rig.setBoard self machine image).rig
      unfold Rig.setBoard
      split
      · exact .nothing
      · rename_i after notice hset
        obtain ⟨board, rfl⟩ := Machine.setBoard_ok hset
        exact .machine rfl ⟨hconf.bank, hconf.entries⟩
    | setBank bank =>
      simp only [Rig.serve]
      split
      · refine .machine rfl ⟨?_, hconf.entries⟩
        intro position hp
        exact hr.banks position (Option.mem_toList.2 hp)
      · exact .nothing
    | registerStandard =>
      simp only [Rig.serve]
      split
      · exact .nothing
      · exact .machine rfl ((hconf.registerLed rfl rfl).registerCapability rfl rfl)
    | registerLed source =>
      have hsource := hr.sources source (List.mem_singleton.2 rfl)
      simp only [Rig.serve]
      split
      · exact .machine rfl (hconf.registerLed rfl hsource)
      · exact .nothing
    | registerCapability source platform =>
      have hsource := hr.sources source (List.mem_singleton.2 rfl)
      simp only [Rig.serve]
      split
      · exact .machine rfl (hconf.registerCapability rfl hsource)
      · exact .nothing
    | invoke number arguments =>
      change split.Touches _ _ (rig.invoke self number arguments).rig
      rw [Rig.invoke_eq, Turn.finish_rig]
      exact touches_tryInvoke hparts rfl number arguments
    | tryInvoke number arguments =>
      change split.Touches _ _ (rig.tryCall self number arguments).rig
      rw [Rig.tryCall_eq, Turn.finish_rig]
      exact touches_tryInvoke hparts rfl number arguments
    | register number routine =>
      cases routine with
      | none => exact .nothing
      | some routine => exact .machine rfl (hconf.install rfl fun _ ho => by cases ho)
    | registerRoutine number routine =>
      exact .machine rfl (hconf.install rfl fun _ ho => by cases ho)
    | copy number target source =>
      have hsource := hr.sources source (List.mem_singleton.2 rfl)
      simp only [Rig.serve]
      split
      · unfold Rig.copy
        split
        · exact .nothing
        · rename_i entry hl
          exact .machine rfl (hconf.place (hparts.holds hsource hl))
      · exact .nothing
    | unregister number =>
      refine .machine rfl ⟨hconf.bank, ?_⟩
      intro k entry hk
      rw [Machine.unregister, SortedMap.get?_erase] at hk
      split at hk
      · cases hk
      · exact hconf.entries k entry hk
    | clear => exact .machine rfl ⟨hconf.bank, fun _ _ hk => by cases hk⟩
    | led command =>
      change split.Touches _ _ (rig.ledCommand self command).rig
      rw [Rig.ledCommand_eq, Turn.finish_rig]
      exact touches_led hparts rfl command
    | drive bank handle level =>
      have hbank := hr.banks bank (List.mem_singleton.2 rfl)
      simp only [Rig.serve]
      split
      · exact .nothing
      · exact .bank hbank
    | same number target source =>
      simp only [Rig.serve]
      split <;> exact .nothing
    | platform =>
      simp only [Rig.serve]
      split <;> exact .nothing
    | levels bank =>
      simp only [Rig.serve]
      split <;> exact .nothing
    | _ => exact .nothing

end Touches

/-- Everything is on one side, and so every step stays on it. -/
def undivided : Split := ⟨fun _ => true, fun _ => true⟩

theorem undivided_parts (rig : Rig) : undivided.Parts rig :=
  fun _ _ _ => ⟨fun _ _ => rfl, fun _ _ _ => ⟨rfl, fun _ _ => rfl⟩⟩

theorem undivided_touches (rig : Rig) (step : Step) :
    undivided.Touches true rig (rig.step step).rig :=
  touches_step (undivided_parts rig) ⟨fun _ _ => rfl, fun _ _ => rfl⟩

end Split

namespace Rig

/-- Machines and banks may change; none is added and none is taken away. -/
theorem step_lengths (rig : Rig) (step : Step) :
    (rig.step step).rig.machines.length = rig.machines.length ∧
      (rig.step step).rig.banks.length = rig.banks.length := by
  have htouch := Split.undivided_touches rig step
  generalize (rig.step step).rig = after at htouch ⊢
  cases htouch with
  | nothing => exact ⟨rfl, rfl⟩
  | machine => exact ⟨List.length_set, rfl⟩
  | bank => exact ⟨rfl, List.length_set⟩

theorem step_filter (rig : Rig) (step : Step) : (rig.step step).rig.filter = rig.filter :=
  (Split.undivided_touches rig step).filter

theorem after_filter (rig : Rig) (steps : List Step) : (rig.after steps).filter = rig.filter := by
  induction steps generalizing rig with
  | nil => rfl
  | cons step rest ih => rw [after_cons, ih, step_filter]

theorem after_lengths (rig : Rig) (steps : List Step) :
    (rig.after steps).machines.length = rig.machines.length ∧
      (rig.after steps).banks.length = rig.banks.length := by
  induction steps generalizing rig with
  | nil => exact ⟨rfl, rfl⟩
  | cons step rest ih =>
    obtain ⟨hmachines, hbanks⟩ := rig.step_lengths step
    obtain ⟨hmachines', hbanks'⟩ := ih (rig.step step).rig
    exact ⟨hmachines'.trans hmachines, hbanks'.trans hbanks⟩

end Rig

end Switchboard
