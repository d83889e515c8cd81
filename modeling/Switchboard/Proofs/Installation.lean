import Switchboard.Proofs.Turn

/-!
# What a step does to the registries

A step changes the registry of its own machine at most, and `Rig.filed` says how: entries are
put under their numbers in order, or one number or all of them are taken out. Calls, boards
and banks leave every registry alone.
-/
namespace Switchboard

namespace Handler

/-- The numbers of the LED handlers, in order of installation. -/
def ledNumbers : List CallNumber := Led.Operation.all.map Led.Operation.number

/-- The numbers of the capability handlers, in order of installation. -/
def capabilityNumbers : List CallNumber :=
  Capability.Query.all.map Capability.Query.number ++ [.sysVersion, .sysPlatform]

theorem ledSet_numbers (owner : Nat) : (ledSet owner).map Prod.fst = ledNumbers := rfl

theorem capabilitySet_numbers (owner : Nat) (id : Int32) :
    (capabilitySet owner id).map Prod.fst = capabilityNumbers := rfl

theorem mem_ledSet (operation : Led.Operation) (owner : Nat) :
    (operation.number, led operation owner) ∈ ledSet owner := by
  have hall : operation ∈ Led.Operation.all := by cases operation <;> decide
  exact List.mem_map_of_mem hall

theorem mem_capabilitySet_query (query : Capability.Query) (owner : Nat) (id : Int32) :
    (query.number, capability query owner) ∈ capabilitySet owner id := by
  have hall : query ∈ Capability.Query.all := by cases query <;> decide
  exact List.mem_append_left _ (List.mem_map_of_mem hall)

theorem mem_capabilitySet_platform (owner : Nat) (id : Int32) :
    (.sysPlatform, platform id) ∈ capabilitySet owner id :=
  List.mem_append_right _ (List.mem_cons_of_mem _ List.mem_cons_self)

end Handler

namespace Registry

/-- Puts entries under their numbers, one after the other. -/
def putAll (registry : Registry) (items : List (CallNumber × Entry)) : Registry :=
  items.foldl (fun registry item => registry.insert item.1 item.2) registry

theorem putAll_cons (registry : Registry) (item : CallNumber × Entry)
    (items : List (CallNumber × Entry)) :
    registry.putAll (item :: items) = putAll (registry.insert item.1 item.2) items := rfl

theorem get?_putAll_of_not_mem (registry : Registry) {items : List (CallNumber × Entry)}
    {number : CallNumber} (h : number ∉ items.map Prod.fst) :
    (registry.putAll items).get? number = registry.get? number := by
  induction items generalizing registry with
  | nil => rfl
  | cons item items ih =>
    rw [List.map_cons, List.mem_cons, not_or] at h
    rw [putAll_cons, ih _ h.2, SortedMap.get?_insert, if_neg h.1]

theorem get?_putAll_of_mem (registry : Registry) {items : List (CallNumber × Entry)}
    (hn : (items.map Prod.fst).Nodup) {number : CallNumber} {entry : Entry}
    (h : (number, entry) ∈ items) : (registry.putAll items).get? number = some entry := by
  induction items generalizing registry with
  | nil => cases h
  | cons item items ih =>
    rw [List.map_cons, List.nodup_cons] at hn
    rw [putAll_cons]
    rcases List.mem_cons.1 h with rfl | h
    · rw [get?_putAll_of_not_mem _ hn.1, SortedMap.get?_insert, if_pos rfl]
    · exact ih _ hn.2 h

end Registry

namespace Machine

/-- What concerns the registry of a machine and nothing else. -/
def books (machine : Machine) : Registry × Nat := (machine.registry, machine.issued)

/-- The entries made by installing handlers, each with the next serial number. -/
def stamp (self : Nat) : Nat → List (CallNumber × Handler) → List (CallNumber × Entry)
  | _, [] => []
  | serial, (number, handler) :: rest =>
    (number, ⟨⟨self, serial⟩, handler⟩) :: stamp self (serial + 1) rest

theorem stamp_numbers (self serial : Nat) (handlers : List (CallNumber × Handler)) :
    (stamp self serial handlers).map Prod.fst = handlers.map Prod.fst := by
  induction handlers generalizing serial with
  | nil => rfl
  | cons item rest ih => rw [stamp, List.map_cons, List.map_cons, ih]

theorem mem_stamp (self serial : Nat) {handlers : List (CallNumber × Handler)}
    {number : CallNumber} {handler : Handler} (h : (number, handler) ∈ handlers) :
    ∃ origin, (number, ⟨origin, handler⟩) ∈ stamp self serial handlers := by
  induction handlers generalizing serial with
  | nil => cases h
  | cons item rest ih =>
    rcases List.mem_cons.1 h with rfl | h
    · exact ⟨⟨self, serial⟩, List.mem_cons_self⟩
    · obtain ⟨origin, hmem⟩ := ih (serial + 1) h
      exact ⟨origin, List.mem_cons_of_mem _ hmem⟩

/-- The books after handlers were installed. -/
def booked (machine : Machine) (self : Nat) (handlers : List (CallNumber × Handler)) :
    Registry × Nat :=
  (machine.registry.putAll (stamp self machine.issued handlers), machine.issued + handlers.length)

/-- To install handlers is to book them, and nothing else. -/
theorem installAll_eq (machine : Machine) (self : Nat) (handlers : List (CallNumber × Handler)) :
    (machine.installAll self handlers).1 =
      { machine with
        registry := (machine.booked self handlers).1
        issued := (machine.booked self handlers).2 } := by
  induction handlers generalizing machine with
  | nil => rfl
  | cons item rest ih =>
    obtain ⟨number, handler⟩ := item
    change ((machine.install self number handler).installAll self rest).1 = _
    rw [ih, booked, booked, stamp, Registry.putAll_cons, List.length_cons, Nat.add_comm rest.length,
      ← Nat.add_assoc]
    rfl

theorem installAll_books (machine : Machine) (self : Nat) (handlers : List (CallNumber × Handler)) :
    (machine.installAll self handlers).1.books = machine.booked self handlers := by
  rw [installAll_eq]
  rfl

theorem installAll_append (machine : Machine) (self : Nat)
    (first second : List (CallNumber × Handler)) :
    (machine.installAll self (first ++ second)).1 =
      ((machine.installAll self first).1.installAll self second).1 := by
  induction first generalizing machine with
  | nil => rfl
  | cons item rest ih => exact ih (machine.install self item.1 item.2)

theorem registerStandard_eq (machine : Machine) (self : Nat) (platform : Int32) :
    (machine.registerStandard self platform).1 =
      (machine.installAll self
        (Handler.ledSet self ++ Handler.capabilitySet self platform)).1 := by
  rw [installAll_append]
  rfl

theorem registerStandard_books (machine : Machine) (self : Nat) (platform : Int32) :
    (machine.registerStandard self platform).1.books =
      machine.booked self (Handler.ledSet self ++ Handler.capabilitySet self platform) := by
  rw [← installAll_books, registerStandard_eq]

end Machine

namespace Rig

/-- The handlers that a step installs, with their numbers, in order. -/
def installs (rig : Rig) (step : Step) : List (CallNumber × Handler) :=
  match step.request with
  | .registerStandard =>
    match (rig.machines[step.machine]?).bind (·.platform) with
    | some platform => Handler.ledSet step.machine ++ Handler.capabilitySet step.machine platform
    | none => []
  | .registerLed source =>
    if source < rig.machines.length then Handler.ledSet source else []
  | .registerCapability source platform =>
    if source < rig.machines.length then Handler.capabilitySet source platform else []
  | .register number (some routine) => [(number, .custom routine)]
  | .registerRoutine number routine => [(number, .custom routine)]
  | _ => []

/-- The books of a step's own machine after the step. -/
def filed (rig : Rig) (step : Step) (machine : Machine) : Registry × Nat :=
  match step.request with
  | .copy number target source =>
    match rig.lookup source number with
    | some entry => (machine.registry.insert target entry, machine.issued)
    | none => machine.books
  | .unregister number => (machine.registry.erase number, machine.issued)
  | .clear => (.empty, machine.issued)
  | _ => machine.booked step.machine (rig.installs step)

/-- A step that installs handlers books them and does nothing else. -/
theorem filed_of_installs {rig : Rig} {step : Step} (h : rig.installs step ≠ [])
    (machine : Machine) :
    rig.filed step machine = machine.booked step.machine (rig.installs step) := by
  obtain ⟨self, request⟩ := step
  cases request with
  | copy => exact absurd rfl h
  | unregister => exact absurd rfl h
  | clear => exact absurd rfl h
  | _ => rfl

theorem lookup_of_length_le {rig : Rig} {machine : Nat} (h : ¬ machine < rig.machines.length)
    (number : CallNumber) : rig.lookup machine number = none := by
  rw [lookup_eq, List.getElem?_eq_none (by omega)]
  rfl

/-- No step installs two handlers under one number. -/
theorem installs_nodup (rig : Rig) (step : Step) : ((rig.installs step).map Prod.fst).Nodup := by
  have hstd : (Handler.ledNumbers ++ Handler.capabilityNumbers).Nodup := by decide
  unfold installs
  split
  · split
    · rw [List.map_append, Handler.ledSet_numbers, Handler.capabilitySet_numbers]
      exact hstd
    · exact List.nodup_nil
  · split
    · rw [Handler.ledSet_numbers]
      exact (List.nodup_append.1 hstd).1
    · exact List.nodup_nil
  · split
    · rw [Handler.capabilitySet_numbers]
      exact (List.nodup_append.1 hstd).2.1
    · exact List.nodup_nil
  · exact List.nodup_cons.2 ⟨List.not_mem_nil, List.nodup_nil⟩
  · exact List.nodup_cons.2 ⟨List.not_mem_nil, List.nodup_nil⟩
  · exact List.nodup_nil

private theorem update_books (rig : Rig) {self : Nat} {machine : Machine}
    (hm : rig.machines[self]? = some machine) (change : Machine × List Notice) (reply : Reply)
    (i : Nat) :
    (rig.update self change reply).rig.machines[i]?.map Machine.books =
      if i = self then some change.1.books else rig.machines[i]?.map Machine.books := by
  have hlt := (List.getElem?_eq_some_iff.1 hm).1
  simp only [update, putMachine_machines, List.getElem?_set]
  by_cases hi : i = self
  · subst hi
    rw [if_pos rfl, if_pos hlt, if_pos rfl, Option.map_some]
  · rw [if_neg (Ne.symm hi), if_neg hi]

private theorem same_books (rig : Rig) {self : Nat} {machine : Machine}
    (hm : rig.machines[self]? = some machine) (i : Nat) :
    rig.machines[i]?.map Machine.books =
      if i = self then some machine.books else rig.machines[i]?.map Machine.books := by
  by_cases hi : i = self
  · rw [if_pos hi, hi, hm, Option.map_some]
  · rw [if_neg hi]

/-- A step files what `filed` says on its own machine, and nothing on any other. -/
theorem serve_books (rig : Rig) {self : Nat} {machine : Machine}
    (hm : rig.machines[self]? = some machine) (request : Request) (i : Nat) :
    (rig.serve self machine request).rig.machines[i]?.map Machine.books =
      if i = self then some (rig.filed ⟨self, request⟩ machine)
      else rig.machines[i]?.map Machine.books := by
  -- a call is seen through `invoke_keeps`, every other request is an update or nothing at all
  cases request with
  | setBoard image =>
    cases h : machine.setBoard image with
    | error error =>
      simp only [serve, setBoard, h]
      exact same_books rig hm i
    | ok found =>
      obtain ⟨after, notice⟩ := found
      obtain ⟨board, rfl⟩ := Machine.setBoard_ok h
      simp only [serve, setBoard, h]
      exact update_books rig hm _ _ i
  | setBank bank =>
    simp only [serve]
    split
    · exact update_books rig hm _ _ i
    · exact same_books rig hm i
  | registerStandard =>
    cases hp : machine.platform with
    | none =>
      simp only [serve, hp, filed, installs, hm, Option.bind_some]
      exact same_books rig hm i
    | some platform =>
      simp only [serve, hp, filed, installs, hm, Option.bind_some]
      rw [update_books rig hm, Machine.registerStandard_books]
  | registerLed source =>
    by_cases hs : source < rig.machines.length
    · simp only [serve, if_pos hs, filed, installs]
      rw [update_books rig hm, ← Machine.installAll_books]
      rfl
    · simp only [serve, if_neg hs, filed, installs]
      exact same_books rig hm i
  | registerCapability source platform =>
    by_cases hs : source < rig.machines.length
    · simp only [serve, if_pos hs, filed, installs]
      rw [update_books rig hm, ← Machine.installAll_books]
      rfl
    · simp only [serve, if_neg hs, filed, installs]
      exact same_books rig hm i
  | invoke number arguments =>
    change (rig.invoke self number arguments).rig.machines[i]?.map Machine.books = _
    rw [invoke_keeps Machine.books fun _ _ => rfl]
    exact same_books rig hm i
  | tryInvoke number arguments =>
    change (rig.tryCall self number arguments).rig.machines[i]?.map Machine.books = _
    rw [tryCall_eq, Turn.finish_rig, tryInvoke_keeps Machine.books fun _ _ => rfl]
    exact same_books rig hm i
  | register number routine =>
    cases routine with
    | none => exact same_books rig hm i
    | some routine => exact update_books rig hm _ _ i
  | registerRoutine number routine => exact update_books rig hm _ _ i
  | copy number target source =>
    by_cases hs : source < rig.machines.length
    · cases hl : rig.lookup source number with
      | none =>
        simp only [serve, if_pos hs, copy, filed, hl]
        exact same_books rig hm i
      | some entry =>
        simp only [serve, if_pos hs, copy, filed, hl]
        exact update_books rig hm _ _ i
    · simp only [serve, if_neg hs, filed, lookup_of_length_le hs]
      exact same_books rig hm i
  | unregister number => exact update_books rig hm _ _ i
  | clear => exact update_books rig hm _ _ i
  | led command =>
    change (rig.ledCommand self command).rig.machines[i]?.map Machine.books = _
    rw [ledCommand_eq, Turn.finish_rig, led_machines]
    exact same_books rig hm i
  | same number target source =>
    simp only [serve]
    split <;> exact same_books rig hm i
  | platform =>
    simp only [serve]
    split <;> exact same_books rig hm i
  | levels bank =>
    simp only [serve]
    split <;> exact same_books rig hm i
  | drive bank handle level =>
    simp only [serve]
    split <;> exact same_books rig hm i
  | _ => exact same_books rig hm i

theorem step_books (rig : Rig) (step : Step) (i : Nat) :
    (rig.step step).rig.machines[i]?.map Machine.books =
      if i = step.machine then rig.machines[i]?.map (rig.filed step)
      else rig.machines[i]?.map Machine.books := by
  obtain ⟨self, request⟩ := step
  cases hm : rig.machines[self]? with
  | none =>
    rw [step_of_missing hm]
    by_cases hi : i = self
    · rw [if_pos hi, hi]
      simp only [tell, hm, Option.map_none]
    · rw [if_neg hi]
      rfl
  | some machine =>
    rw [step_of_machine hm, serve_books rig hm]
    by_cases hi : i = self
    · rw [if_pos hi, if_pos hi, hi, hm, Option.map_some]
    · rw [if_neg hi, if_neg hi]

theorem lookup_step (rig : Rig) (step : Step) (machine : Nat) (number : CallNumber) :
    (rig.step step).rig.lookup machine number =
      if machine = step.machine then
        (rig.machines[machine]?).bind fun found => (rig.filed step found).1.get? number
      else rig.lookup machine number := by
  have hbooks : ∀ rig : Rig, rig.lookup machine number =
      (rig.machines[machine]?.map Machine.books).bind (·.1.get? number) := by
    intro rig
    rw [lookup_eq, Option.bind_map]
    rfl
  rw [hbooks, hbooks rig, step_books]
  split
  · rw [Option.bind_map]
    rfl
  · rfl

/-- An entry that a step makes is found under its number afterwards. -/
theorem lookup_made {rig : Rig} {step : Step} {found : Machine}
    (hm : rig.machines[step.machine]? = some found) {number : CallNumber} {entry : Entry}
    (h : (number, entry) ∈ Machine.stamp step.machine found.issued (rig.installs step)) :
    (rig.step step).rig.lookup step.machine number = some entry := by
  have hany : rig.installs step ≠ [] := by
    intro hnil
    rw [hnil] at h
    cases h
  have hn := rig.installs_nodup step
  rw [← Machine.stamp_numbers step.machine found.issued] at hn
  rw [lookup_step, if_pos rfl, hm, Option.bind_some, filed_of_installs hany]
  exact Registry.get?_putAll_of_mem _ hn h

/-- What a step installs is found under its number afterwards. -/
theorem lookup_installed {rig : Rig} {step : Step} (hs : step.machine < rig.machines.length)
    {number : CallNumber} {handler : Handler} (h : (number, handler) ∈ rig.installs step) :
    ∃ origin, (rig.step step).rig.lookup step.machine number = some ⟨origin, handler⟩ := by
  have hm := List.getElem?_eq_some_iff.2 ⟨hs, rfl⟩
  obtain ⟨origin, hmem⟩ := Machine.mem_stamp step.machine
    rig.machines[step.machine].issued h
  exact ⟨origin, lookup_made hm hmem⟩

/-- The machine has every standard handler under its number, for itself. -/
def Standard (rig : Rig) (self : Nat) : Prop :=
  ∃ platform, ∀ item ∈ Handler.ledSet self ++ Handler.capabilitySet self platform,
    ∃ origin, rig.lookup self item.1 = some ⟨origin, item.2⟩

/-- The machine has every standard handler under its number, for itself and for this platform. -/
def Offers (rig : Rig) (self : Nat) (platform : Int32) : Prop :=
  ∀ item ∈ Handler.ledSet self ++ Handler.capabilitySet self platform,
    ∃ origin, rig.lookup self item.1 = some ⟨origin, item.2⟩

theorem installs_registerStandard {rig : Rig} {self : Nat} {machine : Machine} {platform : Int32}
    (hm : rig.machines[self]? = some machine) (hp : machine.platform = some platform) :
    rig.installs ⟨self, .registerStandard⟩ =
      Handler.ledSet self ++ Handler.capabilitySet self platform := by
  simp only [installs, hm, Option.bind_some, hp]

theorem offers_of_register {rig : Rig} {self : Nat} {machine : Machine} {platform : Int32}
    (hm : rig.machines[self]? = some machine) (hp : machine.platform = some platform) :
    (rig.step ⟨self, .registerStandard⟩).rig.Offers self platform := by
  intro item hitem
  rw [← installs_registerStandard hm hp] at hitem
  exact lookup_installed (List.getElem?_eq_some_iff.1 hm).1 hitem

/-- A runtime that registers everything has it. -/
theorem standard_of_register {rig : Rig} {self : Nat} {machine : Machine} {platform : Int32}
    (hm : rig.machines[self]? = some machine) (hp : machine.platform = some platform) :
    (rig.step ⟨self, .registerStandard⟩).rig.Standard self :=
  ⟨platform, offers_of_register hm hp⟩

theorem Standard.led {rig : Rig} {self : Nat} (h : rig.Standard self)
    (operation : Led.Operation) :
    ∃ origin, rig.lookup self operation.number = some ⟨origin, .led operation self⟩ := by
  obtain ⟨platform, h⟩ := h
  exact h _ (List.mem_append_left _ (Handler.mem_ledSet operation self))

theorem Standard.capability {rig : Rig} {self : Nat} (h : rig.Standard self)
    (query : Capability.Query) :
    ∃ origin, rig.lookup self query.number = some ⟨origin, .capability query self⟩ := by
  obtain ⟨platform, h⟩ := h
  exact h _ (List.mem_append_right _ (Handler.mem_capabilitySet_query query self platform))

end Rig

end Switchboard
