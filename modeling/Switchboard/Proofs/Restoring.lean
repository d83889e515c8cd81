import Switchboard.Proofs.Equipment
import Switchboard.Proofs.Renaming

/-!
# Registering everything

A runtime can register its standard handlers at any time. Whatever was registered, replaced or
taken out before, this puts the standard handlers back, as a runtime has them that does nothing
else, and leaves everything else as it was. Once they are in place, registering everything again
only gives them other origins. Origins are told by comparisons alone, so nothing that is called
later can notice.
-/
namespace Switchboard

namespace Registry

theorem mem_keys_putAll (registry : Registry) {items : List (CallNumber × Entry)}
    (hnodup : (items.map Prod.fst).Nodup) (number : CallNumber) :
    number ∈ (registry.putAll items).keys ↔
      number ∈ registry.keys ∨ number ∈ items.map Prod.fst := by
  rw [SortedMap.mem_keys, SortedMap.mem_keys]
  by_cases h : number ∈ items.map Prod.fst
  · obtain ⟨⟨number, entry⟩, hmem, rfl⟩ := List.mem_map.1 h
    rw [get?_putAll_of_mem registry hnodup hmem]
    exact iff_of_true rfl (.inr h)
  · rw [get?_putAll_of_not_mem registry h, or_iff_left h]

end Registry

theorem Machine.stamp_standard (self serial : Nat) (platform : Int32) :
    (stamp self serial (Handler.ledSet self ++ Handler.capabilitySet self platform)).map Prod.fst =
      standardNumbers := stamp_numbers _ _ _

/-- A set is larger than one it is made from by the additions that are new. -/
theorem length_of_union {α : Type} [DecidableEq α] {before added after : List α}
    (hbefore : before.Nodup) (hadded : added.Nodup) (hafter : after.Nodup)
    (h : ∀ item, item ∈ after ↔ item ∈ before ∨ item ∈ added) :
    after.length = before.length + (added.filter (· ∉ before)).length := by
  have hapart : (before ++ added.filter (· ∉ before)).Nodup := by
    refine List.nodup_append.2 ⟨hbefore, hadded.filter _, fun item hitem other hother heq => ?_⟩
    rw [← heq] at hother
    exact of_decide_eq_true (List.mem_filter.1 hother).2 hitem
  have hperm : after.Perm (before ++ added.filter (· ∉ before)) := by
    rw [List.perm_ext_iff_of_nodup hafter hapart]
    intro item
    rw [h, List.mem_append, List.mem_filter, decide_eq_true_iff]
    tauto
  rw [hperm.length_eq, List.length_append]

namespace Rig

section Once

variable {rig : Rig} {self : Nat} {machine : Machine} {platform : Int32}
  (hm : rig.machines[self]? = some machine) (hp : machine.platform = some platform)

include hm hp in
/-- Registering everything changes the books of its machine and nothing else. -/
theorem step_registerStandard :
    (rig.step ⟨self, .registerStandard⟩).rig = rig.putMachine self
      { machine with
        registry := (machine.booked self
          (Handler.ledSet self ++ Handler.capabilitySet self platform)).1
        issued := machine.issued + standardNumbers.length } := by
  rw [step_of_machine hm]
  simp only [serve, hp, update, Machine.registerStandard_eq, Machine.installAll_eq]
  rfl

include hm hp in
/-- The numbers are those that were there and the standard ones. -/
theorem mem_keys_registerStandard {found : Machine}
    (hfound : (rig.step ⟨self, .registerStandard⟩).rig.machines[self]? = some found)
    (number : CallNumber) : number ∈ found.registry.keys ↔
      number ∈ machine.registry.keys ∨ number ∈ standardNumbers := by
  rw [step_registerStandard hm hp, putMachine_get hm] at hfound
  cases hfound
  have hnumbers := Machine.stamp_standard self machine.issued platform
  rw [← hnumbers]
  exact Registry.mem_keys_putAll machine.registry (hnumbers ▸ standardNumbers_nodup) number

include hm hp in
theorem size_registerStandard {found : Machine}
    (hfound : (rig.step ⟨self, .registerStandard⟩).rig.machines[self]? = some found) :
    found.registry.size = machine.registry.size +
      (standardNumbers.filter (· ∉ machine.registry.keys)).length := by
  rw [← SortedMap.length_keys, ← SortedMap.length_keys]
  exact length_of_union machine.registry.nodup_keys standardNumbers_nodup
    found.registry.nodup_keys (mem_keys_registerStandard hm hp hfound)

include hm hp in
theorem lookup_registerStandard {number : CallNumber} (h : number ∉ standardNumbers) (i : Nat) :
    (rig.step ⟨self, .registerStandard⟩).rig.lookup i number = rig.lookup i number := by
  refine lookup_of_kept fun hreplaces => h ?_
  have hinstalled := hreplaces.2
  simp only [installs_registerStandard hm hp] at hinstalled
  exact hinstalled

include hm hp in
/-- What a runtime tells of its numbers before and after it registers everything. -/
theorem numbers_registerStandard :
    let done := (rig.step ⟨self, .registerStandard⟩).rig
    ∃ before after : List CallNumber,
      (rig.step ⟨self, .numbers⟩).answer = .numbers before ∧
      (done.step ⟨self, .numbers⟩).answer = .numbers after ∧ after.Pairwise (· < ·) ∧
      (∀ number, number ∈ after ↔ number ∈ before ∨ number ∈ standardNumbers) ∧
      (rig.step ⟨self, .count⟩).answer = .count before.length ∧
      (done.step ⟨self, .count⟩).answer =
        .count (before.length + (standardNumbers.filter (· ∉ before)).length) := by
  intro done
  obtain ⟨found, hfound⟩ : ∃ found, done.machines[self]? = some found :=
    ⟨_, (congrArg (·.machines[self]?) (step_registerStandard hm hp)).trans (putMachine_get hm _)⟩
  refine ⟨machine.registry.keys, found.registry.keys, ?_, ?_, found.registry.ascending_keys,
    mem_keys_registerStandard hm hp hfound, ?_, ?_⟩
  · rw [step_of_machine hm]
    rfl
  · rw [step_of_machine hfound]
    rfl
  · rw [step_of_machine hm, SortedMap.length_keys]
    rfl
  · rw [step_of_machine hfound, SortedMap.length_keys, ← size_registerStandard hm hp hfound]
    rfl

end Once

section Given

variable {session : Session} {start : Rig} (hstart : session.rig = .ok start)
  (history : List Step)

/-- A run is one up to a step, this step, and the rest of it. -/
theorem after_split (start : Rig) {history : List Step} {position : Nat} {step : Step}
    (h : history[position]? = some step) :
    start.after history =
      (((start.after (history.take position)).step step).rig).after
        (history.drop (position + 1)) := by
  obtain ⟨hlt, hstep⟩ := List.getElem?_eq_some_iff.1 h
  rw [← after_cons, ← hstep, ← List.drop_eq_getElem_cons hlt, ← after_append,
    List.take_append_drop]

include hstart in
/-- A machine has counted every installation whose name is found anywhere. -/
theorem serial_lt_issued {i : Nat} {number : CallNumber} {entry : Entry}
    (h : (start.after history).lookup i number = some entry) {home : Machine}
    (hhome : (start.after history).machines[entry.origin.machine]? = some home) :
    entry.origin.serial < home.issued := by
  obtain ⟨event, hcarries⟩ := exists_carries hstart history h
  obtain ⟨made, hmade, hmakes⟩ := hcarries.makes h
  obtain ⟨step, hstep, rfl⟩ := Option.map_eq_some_iff.1 hmade
  obtain ⟨found, hfound, hmem⟩ := hmakes
  obtain ⟨hmachine, -, hbelow⟩ := Machine.origin_of_mem_stamp hmem
  obtain ⟨next, hnext, hcounted⟩ := issued_step hfound
  obtain ⟨last, hlast, hle⟩ := issued_le hnext (history.drop (event.position + 1))
  rw [← start.after_split hstep, ← hmachine] at hlast
  obtain rfl : last = home := Option.some.inj (hlast.symm.trans hhome)
  omega

include hstart in
/-- Nothing is counted under a name that is still to be given. -/
theorem runs_of_unissued {i : Nat} {home : Machine}
    (hm : (start.after history).machines[i]? = some home) {serial : Nat}
    (h : home.issued ≤ serial) : home.runs serial = 0 := by
  let origin : Origin := ⟨i, serial⟩
  have hlt : origin.machine < start.machines.length := by
    have hafter := (List.getElem?_eq_some_iff.1 hm).1
    rwa [(start.after_lengths history).1] at hafter
  have hnever : start.callsOf origin history = [] := by
    refine List.eq_nil_iff_forall_not_mem.2 fun position hmem => ?_
    obtain ⟨step, hstep, hcalled⟩ := (start.mem_callsOf origin history position).1 hmem
    obtain ⟨number, arguments, -, hl⟩ := (called?_eq_some_iff _ step _).1 hcalled
    have hthen := (start.after_lengths (history.take position)).1
    have hfound := List.getElem?_eq_getElem (hthen ▸ hlt)
    have hgiven := serial_lt_issued hstart _ hl hfound
    obtain ⟨last, hlast, hle⟩ := issued_le hfound (history.drop position)
    rw [← after_append, List.take_append_drop] at hlast
    obtain rfl : last = home := Option.some.inj (hlast.symm.trans hm)
    exact absurd hgiven (Nat.not_lt.2 (Nat.le_trans hle h))
  have hruns := runs_after hlt history
  rw [Session.runs_start hstart, hnever, List.length_nil, runs_of_machine hm] at hruns
  exact hruns

end Given

end Rig

theorem Handler.standard_ne_counter {item : CallNumber × Handler} {owner : Nat} {id : Int32}
    (h : item ∈ ledSet owner ++ capabilitySet owner id) : item.2 ≠ .custom .counter := by
  intro hcounter
  rcases List.mem_append.1 h with hled | hcapability
  · obtain ⟨operation, -, rfl⟩ := List.mem_map.1 hled
    cases hcounter
  · rcases List.mem_append.1 hcapability with hquery | hfixed
    · obtain ⟨query, -, rfl⟩ := List.mem_map.1 hquery
      cases hcounter
    · rcases List.mem_pair.1 hfixed with rfl | rfl <;> cases hcounter

/-- The names after everything was registered again: what the machine installs later is moved behind
the new handlers. -/
def Renaming.again (self issued : Nat) : Renaming where
  serial i serial :=
    if i = self ∧ issued ≤ serial then serial + standardNumbers.length else serial
  injective := by
    intro i one other h
    simp only at h
    split at h <;> split at h <;> omega

section Again

namespace Renaming

variable {self issued i serial : Nat}

theorem again_of_other (h : i ≠ self) : (again self issued).serial i serial = serial :=
  if_neg fun hboth => h hboth.1

theorem again_of_lt (h : serial < issued) : (again self issued).serial i serial = serial :=
  if_neg fun hboth => Nat.not_lt.2 hboth.2 h

theorem again_of_le (h : issued ≤ serial) :
    (again self issued).serial self serial = serial + standardNumbers.length :=
  if_pos ⟨rfl, h⟩

end Renaming

variable {session : Session} {start : Rig} (hstart : session.rig = .ok start)
  (history : List Step) {self : Nat} {platform : Int32} {machine : Machine}
  (hm : (start.after history).machines[self]? = some machine)

include hstart hm in
/-- The entries that are there keep their names. -/
theorem sameEntries_again {i : Nat} {found : Machine}
    (hfound : (start.after history).machines[i]? = some found) (number : CallNumber) :
    Option.Rel (Renaming.again self machine.issued).SameEntry (found.registry.get? number)
      (found.registry.get? number) := by
  cases hget : found.registry.get? number with
  | none => exact .none
  | some entry =>
    refine .some ⟨rfl, fun _ => ?_⟩
    rw [Renaming.origin]
    by_cases hself : entry.origin.machine = self
    · have hl := (Rig.lookup_of_machine hfound number).trans hget
      have hgiven : entry.origin.serial < machine.issued :=
        Rig.serial_lt_issued hstart history hl (hself ▸ hm)
      rw [Renaming.again_of_lt hgiven]
    · rw [Renaming.again_of_other hself]

include hstart hm in
theorem runs_again (serial : Nat) :
    machine.runs ((Renaming.again self machine.issued).serial self serial) =
      machine.runs serial := by
  rcases Nat.lt_or_ge serial machine.issued with hlt | hle
  · rw [Renaming.again_of_lt hlt]
  · have hlater := Nat.le_trans hle (Nat.le_add_right serial standardNumbers.length)
    rw [Renaming.again_of_le hle, Rig.runs_of_unissued hstart history hm hle,
      Rig.runs_of_unissued hstart history hm hlater]

include hstart hm in
/-- The new handlers are equal to the old ones, which do not count. -/
theorem booked_again (hoffers : (start.after history).Offers self platform)
    (number : CallNumber) :
    Option.Rel (Renaming.again self machine.issued).SameEntry (machine.registry.get? number)
      ((machine.booked self
        (Handler.ledSet self ++ Handler.capabilitySet self platform)).1.get? number) := by
  have hnumbers := Machine.stamp_standard self machine.issued platform
  rw [Machine.booked]
  by_cases hstandard : number ∈ standardNumbers
  · obtain ⟨item, hitem, rfl⟩ : ∃ item ∈ Handler.ledSet self ++ Handler.capabilitySet self platform,
        item.1 = number := List.mem_map.1 hstandard
    obtain ⟨origin, hl⟩ := hoffers item hitem
    obtain ⟨later, hstamp⟩ := Machine.mem_stamp self machine.issued hitem
    rw [← Rig.lookup_of_machine hm, hl,
      Registry.get?_putAll_of_mem _ (hnumbers ▸ standardNumbers_nodup) hstamp]
    exact .some ⟨rfl, fun hcounter => absurd hcounter (Handler.standard_ne_counter hitem)⟩
  · rw [Registry.get?_putAll_of_not_mem _ (hnumbers ▸ hstandard)]
    exact sameEntries_again hstart history hm hm number

include hstart hm in
/-- Registering everything where everything is registered only names it anew. -/
theorem sameRig_again (hp : machine.platform = some platform)
    (hoffers : (start.after history).Offers self platform) :
    (Renaming.again self machine.issued).SameRig (start.after history)
      ((start.after history).step ⟨self, .registerStandard⟩).rig := by
  rw [Rig.step_registerStandard hm hp]
  refine ⟨rfl, rfl, fun i => ?_⟩
  by_cases hi : i = self
  · subst hi
    rw [hm, Rig.putMachine_get hm]
    refine .some ⟨rfl, rfl, rfl, booked_again hstart history hm hoffers, fun n => ?_,
      runs_again hstart history hm⟩
    rw [Renaming.again_of_le (Nat.le_add_right _ n)]
    exact Nat.add_right_comm _ _ _
  · rw [Rig.putMachine_machines, List.getElem?_set_ne (Ne.symm hi)]
    cases hfound : (start.after history).machines[i]? with
    | none => exact .none
    | some found =>
      refine .some ⟨rfl, rfl, rfl, sameEntries_again hstart history hm hfound, fun n => ?_,
        fun serial => ?_⟩
      · rw [Renaming.again_of_other hi]
      · rw [Renaming.again_of_other hi]

include hstart in
/-- However often everything is registered again, later steps are told the same, except of
origins. -/
theorem agree_again (hp : (start.after history).platform? self = some platform)
    (hoffers : (start.after history).Offers self platform) (n : Nat) (tail : List Step) :
    AgreeApart tail ((start.after history).run tail)
      (((start.after history).after (List.replicate n ⟨self, .registerStandard⟩)).run tail) := by
  induction n generalizing history with
  | zero => exact .refl _ _
  | succ n ih =>
    obtain ⟨machine, hm, hplatform⟩ := Option.bind_eq_some_iff.1 hp
    have honce := (sameRig_again hstart history hm hplatform hoffers).run tail
    have hmore := ih (history ++ [⟨self, .registerStandard⟩])
    rw [Rig.after_snoc] at hmore
    refine honce.trans (hmore ?_ (Rig.offers_of_platform hp))
    rw [Rig.platform_step, hp]

end Again

/-- At any time of a session, a runtime that registers everything has the numbers it had and the
standard ones, so many more as were missing; every other number keeps its entry, and every other
machine, all banks and the runtime's own board, bank and counts stay. From then on, while nothing
but registering everything replaces a standard handler, a standard call is the work it is on a
runtime of any session that is equipped alike and whose registry saw nothing but one such
registration: the same answer, the same calls, of the bank that the runtime points at, and the same
equipment afterwards. Registering everything again, any number of times, changes nothing that later
steps are told or ask of a bank, comparisons of origins apart. -/
theorem standard_restored {session : Session} {start : Rig} (hstart : session.rig = .ok start)
    (history : List Step) {self : Nat} {machine : Machine} {platform : Int32}
    (hm : (start.after history).machines[self]? = some machine)
    (hp : machine.platform = some platform) :
    let rig := start.after history
    let everything : Step := ⟨self, .registerStandard⟩
    let done := (rig.step everything).rig
    (∃ before after : List CallNumber,
      (rig.step ⟨self, .numbers⟩).answer = .numbers before ∧
      (done.step ⟨self, .numbers⟩).answer = .numbers after ∧ after.Pairwise (· < ·) ∧
      (∀ number, number ∈ after ↔ number ∈ before ∨ number ∈ standardNumbers) ∧
      (rig.step ⟨self, .count⟩).answer = .count before.length ∧
      (done.step ⟨self, .count⟩).answer =
        .count (before.length + (standardNumbers.filter (· ∉ before)).length)) ∧
    (∀ number, number ∉ standardNumbers → done.lookup self number = rig.lookup self number) ∧
    (∃ found, done.machines[self]? = some found ∧ found.platform = machine.platform ∧
      found.board = machine.board ∧ found.bank = machine.bank ∧
      found.tallies = machine.tallies) ∧
    done.banks = rig.banks ∧ (∀ i, i ≠ self → done.machines[i]? = rig.machines[i]?) ∧
    ∀ rest, done.KeepsStandard self rest →
      let now := done.after rest
      (∀ (other : Rig) (steps : List Step) (it : Nat), OnlyStandard it steps →
        (other.after steps).equipment? it = now.equipment? self →
        ∀ request number arguments, request.call? = some (number, arguments) →
          number ∈ standardNumbers →
          Rig.SameWork self it (now.step ⟨self, request⟩)
            ((other.after steps).step ⟨it, request⟩) ∧
          ∀ found, now.machines[self]? = some found →
            ∀ call ∈ (now.step ⟨self, request⟩).effects.filterMap Effect.call?,
              found.bank = some call.1) ∧
      ∀ n tail, AgreeApart tail (now.run tail)
        ((now.after (List.replicate n everything)).run tail) := by
  intro rig everything done
  have hdone : done = _ := Rig.step_registerStandard hm hp
  have hplatform : rig.platform? self = some platform := (Rig.platform?_of_machine hm).trans hp
  refine ⟨Rig.numbers_registerStandard hm hp,
    fun number h => Rig.lookup_registerStandard hm hp h self, ?_, ?_, ?_, ?_⟩
  · rw [hdone, Rig.putMachine_get hm]
    exact ⟨_, rfl, rfl, rfl, rfl, rfl⟩
  · rw [hdone]
    rfl
  · intro i hi
    rw [hdone, Rig.putMachine_machines, List.getElem?_set_ne (Ne.symm hi)]
  · intro rest hkeeps now
    have hnow : now = start.after (history ++ everything :: rest) := by
      rw [Rig.after_append, Rig.after_cons]
    have hsystem : now.platform? self = some platform := by
      rw [Rig.platform_after, Rig.platform_step, hplatform]
    have hoffers : now.Offers self platform :=
      (Rig.offers_of_platform hplatform).after (by rw [Rig.platform_step, hplatform]) hkeeps
    constructor
    · intro other steps it honly heq request number arguments hc hn
      have hits := Rig.offers_of_onlyStandard honly
        ((Rig.platform_of_equipment heq).trans hsystem)
      exact ⟨hoffers.step_eq hits heq hc hn, fun found hfound =>
        hoffers.step_bank hfound hc hn⟩
    · rw [hnow] at hsystem hoffers ⊢
      exact agree_again hstart _ hsystem hoffers

def restoredSession : Session where
  filter := some (.upTo .trace)
  banks := [.sound]
  machines := [.runtime 7, .runtime 3]
  steps := []

def restoredRig : Rig :=
  ⟨[{ platform := some 7 }, { platform := some 3 }], [⟨.sound, .empty⟩], some (.upTo .trace)⟩

/-- Runtime 0 replaces a standard handler, loses another one and has a counter of its own. -/
def brokenSteps : List Step :=
  [⟨0, .registerStandard⟩, ⟨0, .registerRoutine 7 .counter⟩,
    ⟨0, .register .ledOn (some (.constant 5))⟩, ⟨0, .unregister .sysVersion⟩,
    ⟨0, .setBank (some 0)⟩, ⟨0, .setBoard (some [1, 2, 1, 0, 10, 0, 0, 0])⟩,
    ⟨0, .invoke 7 ⟨0, 0, 0⟩⟩]

/-- What happens once everything is registered again; it is registered a third time. -/
def settledSteps : List Step :=
  [⟨0, .register 9 (some .counter)⟩, ⟨1, .copy 7 .ledOn 0⟩, ⟨0, .registerStandard⟩]

/-- A runtime with the same board, on the second of two banks. -/
def plainRig : Rig :=
  ⟨[{ platform := some 7 }], [⟨.failing, .empty⟩, ⟨.sound, .empty⟩], some (.upTo .trace)⟩

def plainSteps : List Step :=
  [⟨0, .setBank (some 1)⟩, ⟨0, .registerStandard⟩,
    ⟨0, .setBoard (some [1, 2, 1, 0, 10, 0, 0, 0])⟩]

/-- The light goes on again as it does on the plain runtime, and the counter counts on. -/
theorem standard_restored_broken :
    let rig := restoredRig.after brokenSteps
    let done := (rig.step ⟨0, .registerStandard⟩).rig
    let now := done.after settledSteps
    let light : Request := .invoke .ledOn ⟨1, 2, 1⟩
    let tail : List Step := [⟨0, light⟩, ⟨0, .invoke 7 ⟨0, 0, 0⟩⟩, ⟨1, .invoke .ledOn ⟨0, 0, 0⟩⟩]
    (rig.step ⟨0, light⟩).answer = .value 5 ∧
    (done.step ⟨0, .count⟩).answer = .count 12 ∧
    done.lookup 0 7 = rig.lookup 0 7 ∧
    Rig.SameWork 0 0 (now.step ⟨0, light⟩) ((plainRig.after plainSteps).step ⟨0, light⟩) ∧
    ((plainRig.after plainSteps).step ⟨0, light⟩).effects = [.pin 1 (.write 10 true false true)] ∧
    AgreeApart tail (now.run tail)
      ((now.after (List.replicate 3 ⟨0, .registerStandard⟩)).run tail) ∧
    (now.run tail).map Report.reply = [.value 1, .value 2, .value 3] := by
  intro rig done now light tail
  have hstart : restoredSession.rig = .ok restoredRig := rfl
  have hkeeps : done.KeepsStandard 0 settledSteps := by
    refine ⟨.inr fun number hn hreplaces => ?_, .inr fun number _ hreplaces => ?_, .inl rfl,
      trivial⟩
    · obtain rfl : number = 9 := List.mem_singleton.1 hreplaces.2
      exact absurd hn (by decide)
    · cases hreplaces.1
  have honly : OnlyStandard 0 plainSteps := ⟨[_], [_], rfl, by decide⟩
  have hm : rig.machines[0]? = some rig.machines[0] := rfl
  have hp : rig.machines[0].platform = some 7 := rfl
  obtain ⟨-, hothers, -, -, -, hlater⟩ := standard_restored hstart brokenSteps hm hp
  obtain ⟨hcalls, hagain⟩ := hlater settledSteps hkeeps
  obtain ⟨hwork, -⟩ := hcalls plainRig plainSteps 0 honly (by decide) light .ledOn _ rfl
    (by decide)
  exact ⟨by decide, by decide, hothers 7 (by decide), hwork, by decide, hagain 3 tail, by decide⟩

end Switchboard
