import Switchboard.Proofs.LastWrite

/-!
# What a step notes of the registries

For each entry that a step puts into a registry it notes the number, and whether the number was
taken; under a filter that lets debugging through, all these notes are written. Notes of this kind
are made of nothing else: a registration that installs nothing makes none, and neither does a step
that takes entries out, or any call.
-/
namespace Switchboard

/-- An entry is put under a number, which was taken or free. -/
structure Filing where
  number : CallNumber
  taken : Bool
  deriving DecidableEq

def Notice.filing? : Notice → Option Filing
  | registered number => some ⟨number, false⟩
  | replaced number => some ⟨number, true⟩
  | _ => none

def Effect.filing? (effect : Effect) : Option Filing := effect.notice?.bind Notice.filing?

def Turn.filings {α : Type} (turn : Turn α) : List Filing := turn.effects.filterMap Effect.filing?

/-- The note that is made if an entry is now put under the number. -/
def Registry.filing (registry : Registry) (number : CallNumber) : Filing :=
  ⟨number, registry.contains number⟩

namespace Rig

/-- The note that is made if an entry is now put under the number on the machine. -/
def filing (rig : Rig) (machine : Nat) (number : CallNumber) : Filing :=
  ⟨number, (rig.lookup machine number).isSome⟩

/-- The numbers under which a step puts entries, in order, provided that its machine is there. -/
def places (rig : Rig) (step : Step) : List CallNumber :=
  match step.request with
  | .copy number target source => if (rig.lookup source number).isSome then [target] else []
  | _ => (rig.installs step).map Prod.fst

/-- The numbers under which a step puts entries, in order. -/
def files (rig : Rig) (step : Step) : List CallNumber :=
  if step.machine < rig.machines.length then rig.places step else []

end Rig

theorem Registry.filing?_notice (registry : Registry) (number : CallNumber) :
    (registry.notice number).filing? = some (registry.filing number) := by
  unfold notice filing
  cases registry.contains number <;> rfl

theorem Registry.filing_insert (registry : Registry) {number other : CallNumber} (entry : Entry)
    (h : other ≠ number) : filing (registry.insert number entry) other = registry.filing other := by
  rw [filing, filing, SortedMap.contains, SortedMap.contains, SortedMap.get?_insert, if_neg h]

namespace Machine

/-- Handlers under different numbers do not get in each other's way. The induction is over the
handlers; the ones that are left find the registry as it was. -/
theorem installAll_filings (machine : Machine) (self : Nat)
    {handlers : List (CallNumber × Handler)} (hnodup : (handlers.map Prod.fst).Nodup) :
    (machine.installAll self handlers).2.filterMap Notice.filing? =
      (handlers.map Prod.fst).map machine.registry.filing := by
  induction handlers generalizing machine with
  | nil => rfl
  | cons item rest ih =>
    obtain ⟨number, handler⟩ := item
    obtain ⟨hnew, hrest⟩ := List.nodup_cons.1 hnodup
    have hkept : (rest.map Prod.fst).map (machine.install self number handler).registry.filing =
        (rest.map Prod.fst).map machine.registry.filing := by
      apply List.map_congr_left
      intro other hother
      exact Registry.filing_insert _ _ fun heq => hnew (heq ▸ hother)
    change (machine.registry.notice number ::
      ((machine.install self number handler).installAll self rest).2).filterMap _ = _
    rw [List.filterMap_cons_some (Registry.filing?_notice _ _), ih _ hrest, hkept]
    rfl

theorem installAll_append_notices (machine : Machine) (self : Nat)
    (first second : List (CallNumber × Handler)) :
    (machine.installAll self (first ++ second)).2 =
      (machine.installAll self first).2 ++
        ((machine.installAll self first).1.installAll self second).2 := by
  induction first generalizing machine with
  | nil => rfl
  | cons item rest ih =>
    exact congrArg (machine.registry.notice item.1 :: ·) (ih (machine.install self item.1 item.2))

/-- The headings of the two sets are no notes of entries. -/
theorem registerStandard_notices (machine : Machine) (self : Nat) (platform : Int32) :
    (machine.registerStandard self platform).2.filterMap Notice.filing? =
      (machine.installAll self
        (Handler.ledSet self ++ Handler.capabilitySet self platform)).2.filterMap
          Notice.filing? := by
  rw [installAll_append_notices, List.filterMap_append]
  exact List.filterMap_append

end Machine

/-- Under a filter that lets debugging through, every note of an entry is written. -/
theorem Rig.write_filings {rig : Rig} (hdebug : Level.debug.passes rig.filter = true)
    (noted : List Notice) :
    (rig.write noted).filterMap Effect.filing? = noted.filterMap Notice.filing? := by
  rw [write, List.filterMap_map, List.filterMap_filter]
  apply List.filterMap_congr
  intro notice _
  cases notice with
  | registered | replaced => exact if_pos hdebug
  | _ => exact ite_self _

theorem Turn.finish_filings {α β : Type} (turn : Turn α) (form : α → β) {noted : α → List Notice}
    (h : ∀ notice ∈ noted turn.answer, notice.filing? = none) :
    (turn.finish form noted).filings = turn.filings := by
  have hnone : (turn.rig.write (noted turn.answer)).filterMap Effect.filing? = [] := by
    rw [Rig.write, List.filterMap_map]
    exact List.filterMap_eq_nil_iff.2 fun notice hmem => h notice (List.mem_filter.1 hmem).1
  rw [filings, filings, Turn.finish, List.filterMap_append, hnone, List.append_nil]

theorem Turn.finish_silent_filings {α β : Type} (turn : Turn α) (form : α → β) :
    (turn.finish form fun _ => []).filings = turn.filings :=
  turn.finish_filings form fun _ hnotice => nomatch hnotice

namespace Rig

theorem filing?_ledNotices {number : CallNumber} {arguments : Arguments}
    {answer : Except CallError Bool} {notice : Notice}
    (h : notice ∈ ledNotices number arguments answer) : notice.filing? = none := by
  cases answer with
  | ok state => cases h
  | error error =>
    obtain rfl := List.mem_singleton.1 h
    rfl

theorem filing?_callNotices {number : CallNumber} {answer : Except CallError Int32}
    {notice : Notice} (h : notice ∈ callNotices number answer) : notice.filing? = none := by
  cases answer with
  | ok value => cases h
  | error error =>
    obtain rfl := List.mem_singleton.1 h
    rfl

theorem led_filings (rig : Rig) (owner : Nat) (command : Led.Command) :
    (rig.led owner command).filings = [] := by
  rcases rig.led_cases owner command with ⟨_, -, h⟩ | ⟨_, position, bank, device, -, -, -, -, h⟩
  · rw [h]
    rfl
  · rw [h, Turn.filings, moved, List.filterMap_map]
    exact List.filterMap_eq_nil_iff.2 fun _ _ => rfl

theorem dispatch_filings (rig : Rig) (entry : Entry) (number : CallNumber) (arguments : Arguments) :
    (rig.dispatch entry number arguments).filings = [] := by
  unfold dispatch
  split
  · rw [ledCall_eq, Turn.finish_filings _ _ fun _ => filing?_ledNotices, led_filings]
  all_goals rfl

theorem tryInvoke_filings (rig : Rig) (machine : Nat) (number : CallNumber)
    (arguments : Arguments) : (rig.tryInvoke machine number arguments).filings = [] := by
  cases h : rig.lookup machine number with
  | none =>
    rw [tryInvoke_of_absent h]
    rfl
  | some entry =>
    rw [tryInvoke_of_lookup h, Turn.finish_silent_filings, dispatch_filings]

theorem invoke_filings (rig : Rig) (machine : Nat) (number : CallNumber) (arguments : Arguments) :
    (rig.invoke machine number arguments).filings = [] := by
  rw [invoke_eq, Turn.finish_filings _ _ fun _ => filing?_callNotices, tryInvoke_filings]

section Serve

variable {rig : Rig} (hdebug : Level.debug.passes rig.filter = true)

include hdebug in
theorem update_filings (self : Nat) (change : Machine × List Notice) (reply : Reply) :
    (rig.update self change reply).filings = change.2.filterMap Notice.filing? :=
  write_filings hdebug change.2

include hdebug in
/-- A request that is served notes each number under which it puts an entry, with what the registry
had there before. -/
theorem serve_filings {self : Nat} {machine : Machine}
    (hm : rig.machines[self]? = some machine) (request : Request) :
    (rig.serve self machine request).filings =
      (rig.places ⟨self, request⟩).map machine.registry.filing := by
  have hnodup := rig.installs_nodup ⟨self, request⟩
  have hplaced : ∀ number, [machine.registry.notice number].filterMap Notice.filing? =
      [number].map machine.registry.filing :=
    fun number => List.filterMap_cons_some (Registry.filing?_notice _ number)
  cases request with
  | setBoard image =>
    simp only [serve, setBoard]
    cases image with
    | none => exact update_filings hdebug _ _ _
    | some bytes =>
      cases h : Board.decode bytes with
      | error error =>
        rw [Machine.setBoard, h]
        rfl
      | ok board =>
        rw [Machine.setBoard, h]
        exact update_filings hdebug _ _ _
  | setBank bank =>
    simp only [serve]
    split
    · rw [update_filings hdebug]
      cases bank <;> rfl
    · rfl
  | registerStandard =>
    cases hp : machine.platform with
    | none =>
      simp only [serve, hp, places, installs, hm, Option.bind_some]
      rfl
    | some platform =>
      simp only [installs, hm, Option.bind_some, hp] at hnodup
      simp only [serve, hp, places, installs, hm, Option.bind_some, update_filings hdebug]
      rw [Machine.registerStandard_notices, Machine.installAll_filings _ _ hnodup]
  | registerLed source =>
    by_cases hs : source < rig.machines.length
    · simp only [installs, if_pos hs] at hnodup
      simp only [serve, if_pos hs, places, installs, update_filings hdebug]
      exact machine.installAll_filings self hnodup
    · simp only [serve, if_neg hs, places, installs]
      rfl
  | registerCapability source platform =>
    by_cases hs : source < rig.machines.length
    · simp only [installs, if_pos hs] at hnodup
      simp only [serve, if_pos hs, places, installs, update_filings hdebug]
      exact machine.installAll_filings self hnodup
    · simp only [serve, if_neg hs, places, installs]
      rfl
  | invoke number arguments => exact rig.invoke_filings self number arguments
  | tryInvoke number arguments =>
    change (rig.tryCall self number arguments).filings = _
    rw [tryCall_eq, Turn.finish_silent_filings]
    exact rig.tryInvoke_filings self number arguments
  | register number routine =>
    cases routine with
    | none => rfl
    | some routine => exact (update_filings hdebug _ _ _).trans (hplaced number)
  | registerRoutine number routine => exact (update_filings hdebug _ _ _).trans (hplaced number)
  | unregister number => exact update_filings hdebug _ _ _
  | clear => exact update_filings hdebug _ _ _
  | copy number target source =>
    by_cases hs : source < rig.machines.length
    · cases hl : rig.lookup source number with
      | none =>
        simp only [serve, if_pos hs, copy, places, hl]
        rfl
      | some entry =>
        simp only [serve, if_pos hs, copy, places, hl, update_filings hdebug]
        exact hplaced target
    · simp only [serve, if_neg hs, places, lookup_of_length_le hs]
      rfl
  | led command =>
    change (rig.ledCommand self command).filings = _
    rw [ledCommand_eq, Turn.finish_silent_filings]
    exact rig.led_filings self command
  | same number target source =>
    simp only [serve]
    split <;> rfl
  | platform =>
    simp only [serve]
    split <;> rfl
  | levels bank =>
    simp only [serve]
    split <;> rfl
  | drive bank handle level =>
    simp only [serve]
    split <;> rfl
  | _ => rfl

include hdebug in
theorem step_filings (step : Step) :
    (rig.step step).filings = (rig.files step).map (rig.filing step.machine) := by
  obtain ⟨self, request⟩ := step
  cases hm : rig.machines[self]? with
  | none =>
    have hout : ¬ self < rig.machines.length := Nat.not_lt.2 (List.getElem?_eq_none_iff.1 hm)
    rw [step_of_missing hm, files, if_neg hout]
    rfl
  | some machine =>
    have hlt : self < rig.machines.length := (List.getElem?_eq_some_iff.1 hm).1
    have hfiling : machine.registry.filing = rig.filing self := by
      funext number
      rw [filing, lookup_of_machine hm]
      rfl
    rw [step_of_machine hm, serve_filings hdebug hm, files, if_pos hlt, hfiling]

end Serve

section Files

variable {rig : Rig} {step : Step} {number : CallNumber}

theorem nodup_files (rig : Rig) (step : Step) : (rig.files step).Nodup := by
  unfold files places
  split
  · split
    · split
      · exact List.nodup_singleton _
      · exact List.nodup_nil
    · exact rig.installs_nodup step
  · exact List.nodup_nil

/-- Whatever puts an entry under a number replaces what is there, and not by taking it out. -/
theorem replaces_of_mem_places (h : number ∈ rig.places step) :
    rig.Replaces step step.machine number ∧ ¬ Removes step step.machine number := by
  obtain ⟨self, request⟩ := step
  cases request with
  | copy copied target source =>
    simp only [places] at h
    split at h
    case isTrue hsome =>
      obtain rfl := List.mem_singleton.1 h
      exact ⟨⟨rfl, rfl, hsome⟩, by rintro ⟨⟩⟩
    case isFalse => cases h
  | unregister | clear => cases h
  | _ => exact ⟨⟨rfl, h⟩, by rintro ⟨⟩⟩

theorem mem_places_of_installs {entry : Entry}
    (h : Installs rig step step.machine number entry) : number ∈ rig.places step := by
  cases h with
  | made hm h =>
    have hmem := List.mem_map_of_mem (f := Prod.fst) h
    rw [Machine.stamp_numbers] at hmem
    obtain ⟨self, request⟩ := step
    cases request with
    | copy => cases hmem
    | _ => exact hmem
  | copied h =>
    simp only [places, h, Option.isSome_some, if_true]
    exact List.mem_singleton_self _

/-- What is noted is what is installed. -/
theorem mem_files_iff :
    number ∈ rig.files step ↔
      step.machine < rig.machines.length ∧
        ∃ entry, Installs rig step step.machine number entry := by
  unfold files
  split
  case isFalse hout => exact iff_of_false List.not_mem_nil fun h => hout h.1
  case isTrue hlt =>
    rw [and_iff_right hlt]
    constructor
    · intro h
      obtain ⟨hreplaces, hkeeps⟩ := replaces_of_mem_places h
      exact (installs_or_removes hlt hreplaces).resolve_right hkeeps
    · rintro ⟨entry, h⟩
      exact mem_places_of_installs h

/-- What is not noted stays, unless it is taken out. -/
theorem lookup_of_not_mem_files (h : number ∉ rig.files step)
    (hkeeps : ¬ Removes step step.machine number) :
    (rig.step step).rig.lookup step.machine number = rig.lookup step.machine number := by
  by_cases hlt : step.machine < rig.machines.length
  · apply lookup_of_kept
    intro hreplaces
    rcases installs_or_removes hlt hreplaces with hmade | hremoves
    · exact h (mem_files_iff.2 ⟨hlt, hmade⟩)
    · exact hkeeps hremoves
  · have hmissing : rig.machines[step.machine]? = none :=
      List.getElem?_eq_none (Nat.not_lt.1 hlt)
    have hrefused : rig.step step = _ := step_of_missing hmissing step.request
    rw [hrefused]
    rfl

/-- After a step, its machine has the numbers that it had and that the step does not take out, and
those under which the step put entries. -/
theorem isSome_lookup_step (hlt : step.machine < rig.machines.length) :
    ((rig.step step).rig.lookup step.machine number).isSome = true ↔
      (rig.lookup step.machine number).isSome = true ∧ ¬ Removes step step.machine number ∨
        number ∈ rig.files step := by
  by_cases hmem : number ∈ rig.files step
  · obtain ⟨-, entry, hentry⟩ := mem_files_iff.1 hmem
    rw [lookup_of_installs hlt hentry]
    exact iff_of_true rfl (.inr hmem)
  · rw [or_iff_left hmem]
    by_cases hremoves : Removes step step.machine number
    · rw [lookup_of_removes hremoves]
      exact iff_of_false Bool.false_ne_true fun h => h.2 hremoves
    · rw [lookup_of_not_mem_files hmem hremoves, and_iff_left hremoves]

end Files

end Rig

end Switchboard
