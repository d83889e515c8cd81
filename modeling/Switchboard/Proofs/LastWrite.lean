import Switchboard.Proofs.Provenance
import Switchboard.Proofs.Split

/-!
# The last installation counts

A registry is told by the history of its machine alone: under a number stands what was installed
there most recently, unless it was taken out since. Installing covers copies and the standard
sets; a registration without a handler and a copy of nothing install nothing. Everything that can
be asked of a registry agrees with this, also where a handler answers -1 like a missing one.
-/
namespace Switchboard

/-- The step puts `entry` under a number on a machine. -/
inductive Installs (rig : Rig) : Step → Nat → CallNumber → Entry → Prop
  | made {step : Step} {found : Machine} {number : CallNumber} {entry : Entry}
      (hm : rig.machines[step.machine]? = some found)
      (h : (number, entry) ∈ Machine.stamp step.machine found.issued (rig.installs step)) :
      Installs rig step step.machine number entry
  | copied {self source : Nat} {number target : CallNumber} {entry : Entry}
      (h : rig.lookup source number = some entry) :
      Installs rig ⟨self, .copy number target source⟩ self target entry

/-- The step leaves nothing under a number on a machine. -/
inductive Removes : Step → Nat → CallNumber → Prop
  | unregister {self : Nat} {number : CallNumber} : Removes ⟨self, .unregister number⟩ self number
  | clear {self : Nat} {number : CallNumber} : Removes ⟨self, .clear⟩ self number

/-- The step at a position of the history puts `entry` under the number. -/
def InstalledAt (start : Rig) (history : List Step) (machine : Nat) (number : CallNumber)
    (entry : Entry) (position : Nat) : Prop :=
  ∃ step, history[position]? = some step ∧
    Installs (start.after (history.take position)) step machine number entry

/-- The step at a position of the history takes out what is under the number. -/
def RemovedAt (history : List Step) (machine : Nat) (number : CallNumber) (position : Nat) : Prop :=
  ∃ step, history[position]? = some step ∧ Removes step machine number

/-- Under the number, the most recent installation is at a position, and no removal is later. -/
structure Newest (start : Rig) (history : List Step) (machine : Nat) (number : CallNumber)
    (entry : Entry) (position : Nat) : Prop where
  installed : InstalledAt start history machine number entry position
  latest : ∀ later > position, ∀ other, ¬ InstalledAt start history machine number other later
  kept : ∀ later > position, ¬ RemovedAt history machine number later

namespace Rig

section Step

variable {rig : Rig} {step : Step} {machine : Nat} {number : CallNumber}

theorem lookup_of_installs {entry : Entry} (hm : machine < rig.machines.length)
    (h : Installs rig step machine number entry) :
    (rig.step step).rig.lookup machine number = some entry := by
  cases h with
  | made hfound h => exact lookup_made hfound h
  | copied h => exact lookup_copied hm h

theorem lookup_of_removes (h : Removes step machine number) :
    (rig.step step).rig.lookup machine number = none := by
  rw [lookup_step]
  cases h with
  | unregister =>
    rw [if_pos rfl]
    refine Option.bind_eq_none_iff.2 fun found _ => ?_
    simp only [filed]
    rw [SortedMap.get?_erase, if_pos rfl]
  | clear =>
    rw [if_pos rfl]
    exact Option.bind_eq_none_iff.2 fun found _ => rfl

/-- A step that replaces what is under a number installs an entry there or takes it out. -/
theorem installs_or_removes (hm : machine < rig.machines.length)
    (h : rig.Replaces step machine number) :
    (∃ entry, Installs rig step machine number entry) ∨ Removes step machine number := by
  obtain ⟨self, request⟩ := step
  obtain ⟨rfl, h⟩ := h
  have hmade : number ∈ (rig.installs ⟨machine, request⟩).map Prod.fst →
      ∃ entry, Installs rig ⟨machine, request⟩ machine number entry := by
    intro hmem
    obtain ⟨⟨number, handler⟩, hitem, rfl⟩ := List.mem_map.1 hmem
    obtain ⟨origin, hstamp⟩ := Machine.mem_stamp machine rig.machines[machine].issued hitem
    exact ⟨_, .made (List.getElem?_eq_getElem hm) hstamp⟩
  cases request with
  | copy copied target source =>
    obtain ⟨rfl, hsome⟩ := h
    obtain ⟨entry, hl⟩ := Option.isSome_iff_exists.1 hsome
    exact Or.inl ⟨entry, .copied hl⟩
  | unregister gone =>
    cases h
    exact Or.inr .unregister
  | clear => exact Or.inr .clear
  | _ => exact Or.inl (hmade h)

end Step

end Rig

section Snoc

variable {start : Rig} {history : List Step} {step : Step} {machine : Nat} {number : CallNumber}

private theorem getElem?_snoc {α : Type} (items : List α) (last item : α) (i : Nat) :
    (items ++ [last])[i]? = some item ↔
      items[i]? = some item ∨ i = items.length ∧ last = item := by
  rcases Nat.lt_trichotomy i items.length with hlt | rfl | hgt
  · have hne : i ≠ items.length := Nat.ne_of_lt hlt
    rw [List.getElem?_append_left hlt]
    simp only [hne, false_and, or_false]
  · rw [List.getElem?_concat_length, List.getElem?_eq_none (Nat.le_refl _)]
    simp
  · have hlong : (items ++ [last]).length ≤ i := by
      rw [List.length_append, List.length_singleton]
      omega
    have hne : i ≠ items.length := Nat.ne_of_gt hgt
    rw [List.getElem?_eq_none hlong, List.getElem?_eq_none (Nat.le_of_lt hgt)]
    simp [hne]

theorem installedAt_snoc (entry : Entry) (position : Nat) :
    InstalledAt start (history ++ [step]) machine number entry position ↔
      InstalledAt start history machine number entry position ∨
        position = history.length ∧ Installs (start.after history) step machine number entry := by
  have htake : ∀ done, history[position]? = some done →
      (history ++ [step]).take position = history.take position := by
    intro done hdone
    have hlt := (List.getElem?_eq_some_iff.1 hdone).1
    exact List.take_append_of_le_length (Nat.le_of_lt hlt)
  unfold InstalledAt
  simp only [getElem?_snoc]
  constructor
  · rintro ⟨done, hdone | ⟨rfl, rfl⟩, h⟩
    · rw [htake done hdone] at h
      exact Or.inl ⟨done, hdone, h⟩
    · rw [List.take_left] at h
      exact Or.inr ⟨rfl, h⟩
  · rintro (⟨done, hdone, h⟩ | ⟨rfl, h⟩)
    · rw [← htake done hdone] at h
      exact ⟨done, Or.inl hdone, h⟩
    · refine ⟨step, Or.inr ⟨rfl, rfl⟩, ?_⟩
      rw [List.take_left]
      exact h

theorem removedAt_snoc (position : Nat) :
    RemovedAt (history ++ [step]) machine number position ↔
      RemovedAt history machine number position ∨
        position = history.length ∧ Removes step machine number := by
  unfold RemovedAt
  simp only [getElem?_snoc]
  constructor
  · rintro ⟨done, hdone | ⟨rfl, rfl⟩, h⟩
    · exact Or.inl ⟨done, hdone, h⟩
    · exact Or.inr ⟨rfl, h⟩
  · rintro (⟨done, hdone, h⟩ | ⟨rfl, h⟩)
    · exact ⟨done, Or.inl hdone, h⟩
    · exact ⟨step, Or.inr ⟨rfl, rfl⟩, h⟩

theorem InstalledAt.lt {entry : Entry} {position : Nat}
    (h : InstalledAt start history machine number entry position) : position < history.length := by
  obtain ⟨done, hdone, -⟩ := h
  exact (List.getElem?_eq_some_iff.1 hdone).1

theorem RemovedAt.lt {position : Nat} (h : RemovedAt history machine number position) :
    position < history.length := by
  obtain ⟨done, hdone, -⟩ := h
  exact (List.getElem?_eq_some_iff.1 hdone).1

/-- An installation is the newest one when it is made. -/
theorem newest_of_installs {entry : Entry}
    (h : Installs (start.after history) step machine number entry) :
    Newest start (history ++ [step]) machine number entry history.length := by
  have hend : ∀ later > history.length, ¬ later < (history ++ [step]).length := by
    intro later hlater hlt
    rw [List.length_append, List.length_singleton] at hlt
    omega
  exact
    { installed := (installedAt_snoc entry _).2 (Or.inr ⟨rfl, h⟩)
      latest := fun later hlater _ hother => hend later hlater hother.lt
      kept := fun later hlater hremoved => hend later hlater hremoved.lt }

/-- A step that does not replace what is under a number leaves the newest installation as it is. -/
theorem newest_snoc_of_kept (hinstalls : ∀ entry,
      ¬ Installs (start.after history) step machine number entry)
    (hremoves : ¬ Removes step machine number) (entry : Entry) (position : Nat) :
    Newest start (history ++ [step]) machine number entry position ↔
      Newest start history machine number entry position := by
  have hinstalled : ∀ other place,
      InstalledAt start (history ++ [step]) machine number other place ↔
        InstalledAt start history machine number other place := by
    intro other place
    rw [installedAt_snoc]
    exact or_iff_left fun h => hinstalls other h.2
  have hremoved : ∀ place, RemovedAt (history ++ [step]) machine number place ↔
      RemovedAt history machine number place := by
    intro place
    rw [removedAt_snoc]
    exact or_iff_left fun h => hremoves h.2
  constructor
  · intro h
    exact
      { installed := (hinstalled _ _).1 h.installed
        latest := fun later hl other ho => h.latest later hl other ((hinstalled _ _).2 ho)
        kept := fun later hl hr => h.kept later hl ((hremoved _).2 hr) }
  · intro h
    exact
      { installed := (hinstalled _ _).2 h.installed
        latest := fun later hl other ho => h.latest later hl other ((hinstalled _ _).1 ho)
        kept := fun later hl hr => h.kept later hl ((hremoved _).1 hr) }

end Snoc

namespace Rig

section History

variable {start : Rig} (hempty : ∀ machine ∈ start.machines, machine.registry = .empty)

include hempty in
/-- A registry holds under a number what the newest installation put there. The induction is over
the history; its last step installs, takes out, or leaves both sides as they were. -/
theorem lookup_iff_newest (history : List Step) {machine : Nat}
    (hm : machine < start.machines.length) (number : CallNumber) (entry : Entry) :
    (start.after history).lookup machine number = some entry ↔
      ∃ position, Newest start history machine number entry position := by
  induction history using List.reverseRecOn with
  | nil =>
    have hregistry := hempty _ (List.getElem_mem hm)
    have hl : start.lookup machine number = none := by
      rw [lookup_of_machine (List.getElem?_eq_getElem hm), hregistry]
      rfl
    rw [after_nil, hl]
    constructor
    · intro h
      cases h
    · rintro ⟨position, h⟩
      exact absurd h.installed.lt (Nat.not_lt_zero _)
  | append_singleton history step ih =>
    have hlength : machine < (start.after history).machines.length := by
      rw [(start.after_lengths history).1]
      exact hm
    rw [after_snoc]
    by_cases hinstalls : ∃ other, Installs (start.after history) step machine number other
    · obtain ⟨other, hother⟩ := hinstalls
      rw [lookup_of_installs hlength hother, Option.some.injEq]
      constructor
      · rintro rfl
        exact ⟨history.length, newest_of_installs hother⟩
      · rintro ⟨position, h⟩
        have hnow : InstalledAt start (history ++ [step]) machine number other history.length :=
          (newest_of_installs hother).installed
        rcases (installedAt_snoc entry position).1 h.installed with hearlier | ⟨-, hsame⟩
        · exact absurd hnow (h.latest _ hearlier.lt other)
        · have hl := lookup_of_installs hlength hsame
          rw [lookup_of_installs hlength hother] at hl
          exact Option.some.inj hl
    · by_cases hremoves : Removes step machine number
      · rw [lookup_of_removes hremoves]
        constructor
        · intro h
          cases h
        · rintro ⟨position, h⟩
          rcases (installedAt_snoc entry position).1 h.installed with hearlier | ⟨-, hsame⟩
          · have hnow := (removedAt_snoc history.length).2 (Or.inr ⟨rfl, hremoves⟩)
            exact absurd hnow (h.kept _ hearlier.lt)
          · exact absurd ⟨entry, hsame⟩ hinstalls
      · have hkept : ¬ (start.after history).Replaces step machine number := by
          intro h
          exact (installs_or_removes hlength h).elim hinstalls hremoves
        rw [lookup_of_kept hkept, ih]
        exact exists_congr fun position =>
          (newest_snoc_of_kept (fun other h => hinstalls ⟨other, h⟩) hremoves entry position).symm

end History

section Views

variable {rig : Rig} {self : Nat} {found : Machine}

theorem mem_numbers_iff (hm : rig.machines[self]? = some found) (number : CallNumber) :
    number ∈ found.registry.keys ↔ ∃ entry, rig.lookup self number = some entry := by
  rw [SortedMap.mem_keys, Option.isSome_iff_exists, lookup_of_machine hm]

theorem lookup_of_not_mem (hm : rig.machines[self]? = some found) {number : CallNumber}
    (h : number ∉ found.registry.keys) : rig.lookup self number = none := by
  rw [mem_numbers_iff hm] at h
  exact Option.eq_none_iff_forall_ne_some.2 fun entry he => h ⟨entry, he⟩

theorem step_lookup (hm : rig.machines[self]? = some found) (number : CallNumber) :
    (rig.step ⟨self, .lookup number⟩).answer =
      .flag (decide (number ∈ found.registry.keys)) := by
  have hkeys : found.registry.contains number = decide (number ∈ found.registry.keys) := by
    rw [Bool.eq_iff_iff, decide_eq_true_iff, SortedMap.mem_keys, SortedMap.contains]
  rw [step_of_machine hm, ← hkeys]
  rfl

/-- Only a call of a number that is not there is told that there is no handler. -/
theorem step_tryInvoke_iff (hm : rig.machines[self]? = some found) (number : CallNumber)
    (arguments : Arguments) :
    (rig.step ⟨self, .tryInvoke number arguments⟩).answer = .callError .noHandler ↔
      number ∉ found.registry.keys := by
  constructor
  · intro h hmem
    obtain ⟨entry, hl⟩ := (mem_numbers_iff hm number).1 hmem
    have hcall : rig.step ⟨self, .tryInvoke number arguments⟩ = _ := step_of_call rfl hl
    rw [hcall] at h
    cases h
  · intro h
    rw [(step_of_absent hm (lookup_of_not_mem hm h) arguments).2]

/-- A registration answers whether it was given a handler, and without one it does nothing. -/
theorem step_register (hm : rig.machines[self]? = some found) (number : CallNumber)
    (routine : Option Routine) :
    (rig.step ⟨self, .register number routine⟩).answer = .flag routine.isSome ∧
    (routine = none → (rig.step ⟨self, .register number routine⟩).rig = rig) := by
  rw [step_of_machine hm]
  cases routine with
  | none => exact ⟨rfl, fun _ => rfl⟩
  | some routine => exact ⟨rfl, fun h => by cases h⟩

/-- A copy is a registration of what is found, and the same holds of it. -/
theorem step_copy (hm : rig.machines[self]? = some found) {source : Nat}
    (hs : source < rig.machines.length) (number target : CallNumber) :
    (rig.step ⟨self, .copy number target source⟩).answer =
      .flag (rig.lookup source number).isSome ∧
    (rig.lookup source number = none →
      (rig.step ⟨self, .copy number target source⟩).rig = rig) := by
  rw [step_of_machine hm]
  simp only [serve, if_pos hs, copy]
  cases rig.lookup source number with
  | none => exact ⟨rfl, fun _ => rfl⟩
  | some entry => exact ⟨rfl, fun h => by cases h⟩

end Views

end Rig

/-- A registry that starts empty is, after any steps of any machines, a finite map in which the
last write wins. Its numbers are ascending and are those whose newest installation is later than
any removal; the count is theirs. A lookup finds the entry of that installation, with its origin,
and a call runs that entry and tells its value as it is; a call of any other number fails and
runs nothing. A registration, by copy or not, fails exactly if there is no handler to register,
and then changes nothing. -/
theorem registry_last_write_wins {start : Rig}
    (hempty : ∀ machine ∈ start.machines, machine.registry = .empty) (history : List Step)
    {self : Nat} (hself : self < start.machines.length) :
    let rig := start.after history
    let reply (request : Request) := (rig.step ⟨self, request⟩).answer
    ∃ numbers : List CallNumber, numbers.Pairwise (· < ·) ∧
      reply .numbers = .numbers numbers ∧
      reply .count = .count numbers.length ∧ rig.registered self = numbers.length ∧
      (∀ number, number ∈ numbers ↔
        ∃ entry position, Newest start history self number entry position) ∧
      (∀ number, reply (.lookup number) = .flag (decide (number ∈ numbers))) ∧
      (∀ number arguments,
        reply (.tryInvoke number arguments) = .callError .noHandler ↔ number ∉ numbers) ∧
      (∀ number arguments, number ∉ numbers →
        rig.step ⟨self, .invoke number arguments⟩ =
          ⟨rig, .value (-1), rig.write [.callFailed number .noHandler]⟩) ∧
      (∀ number entry position, Newest start history self number entry position →
        rig.lookup self number = some entry ∧
        ∀ arguments,
          let turn := rig.dispatch entry number arguments
          rig.step ⟨self, .invoke number arguments⟩ =
            ⟨turn.rig, .value turn.answer, turn.effects⟩ ∧
          rig.step ⟨self, .tryInvoke number arguments⟩ =
            ⟨turn.rig, .value turn.answer, turn.effects⟩) ∧
      (∀ number routine, reply (.register number routine) = .flag routine.isSome ∧
        (routine = none → (rig.step ⟨self, .register number routine⟩).rig = rig)) ∧
      ∀ source < start.machines.length, ∀ number target,
        reply (.copy number target source) = .flag (rig.lookup source number).isSome ∧
        (rig.lookup source number = none →
          (rig.step ⟨self, .copy number target source⟩).rig = rig) := by
  intro rig reply
  have hlength : rig.machines.length = start.machines.length := (start.after_lengths history).1
  have hm : rig.machines[self]? = some rig.machines[self] :=
    List.getElem?_eq_getElem (by rw [hlength]; exact hself)
  generalize rig.machines[self] = found at hm
  have hnewest := Rig.lookup_iff_newest hempty history hself
  have hasked : ∀ request, reply request = (rig.serve self found request).answer := by
    intro request
    exact congrArg Turn.answer (Rig.step_of_machine hm request)
  refine ⟨found.registry.keys, found.registry.ascending_keys, hasked .numbers, ?_, ?_, ?_,
    Rig.step_lookup hm, Rig.step_tryInvoke_iff hm, ?_, ?_, Rig.step_register hm, ?_⟩
  · rw [SortedMap.length_keys]
    exact hasked .count
  · rw [SortedMap.length_keys, Rig.registered, hm]
  · intro number
    rw [Rig.mem_numbers_iff hm]
    exact exists_congr fun entry => hnewest number entry
  · intro number arguments h
    exact (Rig.step_of_absent hm (Rig.lookup_of_not_mem hm h) arguments).1
  · intro number entry position h
    have hl := (hnewest number entry).2 ⟨position, h⟩
    exact ⟨hl, fun arguments => ⟨Rig.step_of_call rfl hl, Rig.step_of_call rfl hl⟩⟩
  · intro source hs number target
    exact Rig.step_copy hm (by rw [hlength]; exact hs) number target

/-- Two runtimes. Runtime 1 copies a handler that answers -1, which runtime 0 then replaces. -/
def copyingSteps : List Step :=
  [⟨0, .registerStandard⟩, ⟨1, .registerRoutine 7 .counter⟩,
    ⟨0, .register 7 (some (.constant (-1)))⟩, ⟨1, .copy 7 9 0⟩, ⟨0, .registerRoutine 7 .sum⟩,
    ⟨1, .unregister 7⟩, ⟨1, .register 7 none⟩, ⟨1, .copy 8 7 0⟩]

def copyingRig : Rig := ⟨[{ platform := some 1 }, { platform := some 2 }], [], some (.upTo .trace)⟩

/-- The copy still answers -1, as the number that was taken out does, and only that one fails. -/
theorem registry_last_write_wins_copy :
    let rig := copyingRig.after copyingSteps
    let entry : Entry := ⟨⟨0, 11⟩, .custom (.constant (-1))⟩
    (∃ position, Newest copyingRig copyingSteps 1 9 entry position) ∧
    (rig.step ⟨1, .numbers⟩).answer = .numbers [9] ∧
    rig.step ⟨1, .tryInvoke 9 ⟨0, 0, 0⟩⟩ = ⟨rig, .value (-1), []⟩ ∧
    rig.step ⟨1, .invoke 7 ⟨0, 0, 0⟩⟩ =
      ⟨rig, .value (-1), [.notice (.callFailed 7 .noHandler)]⟩ := by
  intro rig entry
  have hempty : ∀ machine ∈ copyingRig.machines, machine.registry = .empty := by decide
  have hself : 1 < copyingRig.machines.length := by decide
  have hnumbers : (rig.step ⟨1, .numbers⟩).answer = .numbers [9] := by decide
  obtain ⟨numbers, -, htold, -, -, hmem, -, -, habsent, hpresent, -⟩ :=
    registry_last_write_wins hempty copyingSteps hself
  obtain rfl : numbers = [9] := Reply.numbers.inj (htold.symm.trans hnumbers)
  obtain ⟨other, position, hnewest⟩ := (hmem 9).1 (by decide)
  obtain ⟨hl, hcall⟩ := hpresent 9 other position hnewest
  obtain rfl : other = entry := Option.some.inj (hl.symm.trans rfl)
  exact ⟨⟨position, hnewest⟩, hnumbers, (hcall ⟨0, 0, 0⟩).2, habsent 7 ⟨0, 0, 0⟩ (by decide)⟩

end Switchboard
