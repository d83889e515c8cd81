import Switchboard.Proofs.Bystander

/-!
# Which entries are one

An installation event is one handler that one step installs: a registration of everything is as
many events as it installs handlers, and taken again it is as many others. An entry carries the
event that its handler stems from, and a copy carries the event of what it was copied from. The
origin that an entry bears is a name for this event. A machine counts its installations and never
counts back, so no name is given twice.
-/
namespace Switchboard

/-- The number that a step of a history installs a handler under. -/
structure Event where
  /-- The position of the step. -/
  position : Nat
  number : CallNumber
  deriving DecidableEq

/-- The installation that an event of a history is. -/
def Event.made? (event : Event) (start : Rig) (history : List Step) : Option Installation :=
  (history[event.position]?).map fun step =>
    ⟨start.after (history.take event.position), step, event.number⟩

/-- After the history, the entry stems from the event. -/
def Carries (start : Rig) (history : List Step) (machine : Nat) (number : CallNumber)
    (event : Event) : Prop :=
  ∃ made, event.made? start history = some made ∧ Stems start history machine number made

/-- The installation makes the entry. -/
def Installation.Makes (made : Installation) (entry : Entry) : Prop :=
  ∃ found, made.rig.machines[made.step.machine]? = some found ∧
    (made.number, entry) ∈
      Machine.stamp made.step.machine found.issued (made.rig.installs made.step)

namespace Machine

/-- The names of the entries that are made together: all of one machine, and numbered on. -/
theorem origin_of_mem_stamp {self serial : Nat} {handlers : List (CallNumber × Handler)}
    {number : CallNumber} {entry : Entry} (h : (number, entry) ∈ stamp self serial handlers) :
    entry.origin.machine = self ∧ serial ≤ entry.origin.serial ∧
      entry.origin.serial < serial + handlers.length := by
  induction handlers generalizing serial with
  | nil => cases h
  | cons item rest ih =>
    rw [List.length_cons]
    rcases List.mem_cons.1 h with heq | h
    · cases heq
      exact ⟨rfl, Nat.le_refl _, by show serial < _; omega⟩
    · obtain ⟨hmachine, hlow, hhigh⟩ := ih h
      exact ⟨hmachine, by omega, by omega⟩

/-- Entries that are made together have different names. -/
theorem stamp_origin_injective {self serial : Nat} {handlers : List (CallNumber × Handler)}
    {number another : CallNumber} {entry other : Entry}
    (h : (number, entry) ∈ stamp self serial handlers)
    (hother : (another, other) ∈ stamp self serial handlers)
    (horigin : entry.origin = other.origin) : (number, entry) = (another, other) := by
  induction handlers generalizing serial with
  | nil => cases h
  | cons item rest ih =>
    have hserial := congrArg Origin.serial horigin
    rcases List.mem_cons.1 h with heq | h
    · rcases List.mem_cons.1 hother with hsame | hother
      · rw [heq, hsame]
      · cases heq
        have hlater := (origin_of_mem_stamp hother).2.1
        rw [← hserial] at hlater
        exact absurd hlater (Nat.not_succ_le_self serial)
    · rcases List.mem_cons.1 hother with hsame | hother
      · cases hsame
        have hlater := (origin_of_mem_stamp h).2.1
        rw [hserial] at hlater
        exact absurd hlater (Nat.not_succ_le_self serial)
      · exact ih h hother

end Machine

namespace Rig

theorem filed_issued (rig : Rig) (step : Step) (machine : Machine) :
    (rig.filed step machine).2 = machine.issued + (rig.installs step).length := by
  obtain ⟨self, request⟩ := step
  cases request with
  | copy number target source =>
    simp only [filed]
    split <;> rfl
  | _ => rfl

/-- A machine counts what its own step installs. -/
theorem issued_step {rig : Rig} {step : Step} {found : Machine}
    (h : rig.machines[step.machine]? = some found) :
    ∃ after, (rig.step step).rig.machines[step.machine]? = some after ∧
      after.issued = found.issued + (rig.installs step).length := by
  have hbooks := rig.step_books step step.machine
  rw [if_pos rfl, h, Option.map_some] at hbooks
  obtain ⟨after, hafter, hfiled⟩ := Option.map_eq_some_iff.1 hbooks
  refine ⟨after, hafter, ?_⟩
  rw [← filed_issued, ← hfiled]
  rfl

/-- No machine ever counts back. -/
theorem issued_le {rig : Rig} {i : Nat} {found : Machine} (h : rig.machines[i]? = some found)
    (steps : List Step) : ∃ after, (rig.after steps).machines[i]? = some after ∧
      found.issued ≤ after.issued := by
  induction steps generalizing rig found with
  | nil => exact ⟨found, h, Nat.le_refl _⟩
  | cons step steps ih =>
    obtain ⟨next, hnext, hle⟩ : ∃ next, (rig.step step).rig.machines[i]? = some next ∧
        found.issued ≤ next.issued := by
      by_cases hi : i = step.machine
      · subst hi
        obtain ⟨next, hnext, hissued⟩ := issued_step h
        exact ⟨next, hnext, by omega⟩
      · have hbooks := rig.step_books step i
        rw [if_neg hi, h, Option.map_some] at hbooks
        obtain ⟨next, hnext, hsame⟩ := Option.map_eq_some_iff.1 hbooks
        exact ⟨next, hnext, Nat.le_of_eq (congrArg Prod.snd hsame).symm⟩
    obtain ⟨after, hafter, hlater⟩ := ih hnext
    exact ⟨after, hafter, Nat.le_trans hle hlater⟩

end Rig

namespace Installation

/-- An installation makes one entry. -/
theorem Makes.unique {made : Installation} {entry other : Entry} (h : made.Makes entry)
    (hother : made.Makes other) : entry = other := by
  obtain ⟨found, hfound, hmem⟩ := h
  obtain ⟨another, hanother, hmem'⟩ := hother
  obtain rfl : found = another := Option.some.inj (hfound.symm.trans hanother)
  have hnodup := made.rig.installs_nodup made.step
  rw [← Machine.stamp_numbers made.step.machine found.issued] at hnodup
  exact (Prod.mk.inj (List.inj_on_of_nodup_map hnodup hmem hmem' rfl)).2

/-- The entry that stems from an installation is the one that the installation made. -/
theorem Makes.of_stems {start : Rig} {history : List Step} {machine : Nat} {number : CallNumber}
    {made : Installation} (h : Stems start history machine number made) :
    ∃ entry, made.Makes entry ∧ (start.after history).lookup machine number = some entry := by
  induction h with
  | @installed history step number hm h =>
    obtain ⟨⟨number, handler⟩, hmem, rfl⟩ := List.mem_map.1 h
    have hfound := List.getElem?_eq_getElem hm
    obtain ⟨origin, hstamp⟩ := Machine.mem_stamp step.machine _ hmem
    refine ⟨⟨origin, handler⟩, ⟨_, hfound, hstamp⟩, ?_⟩
    rw [Rig.after_snoc]
    exact Rig.lookup_made hfound hstamp
  | copied hm _ ih =>
    obtain ⟨entry, hmakes, hl⟩ := ih
    refine ⟨entry, hmakes, ?_⟩
    rw [Rig.after_snoc]
    exact Rig.lookup_copied hm hl
  | kept _ hkept ih =>
    obtain ⟨entry, hmakes, hl⟩ := ih
    refine ⟨entry, hmakes, ?_⟩
    rw [Rig.after_snoc, Rig.lookup_of_kept hkept, hl]

end Installation

namespace Event

/-- What comes later does not change an event. -/
theorem made?_append {event : Event} {start : Rig} {history : List Step} {made : Installation}
    (h : event.made? start history = some made) (rest : List Step) :
    event.made? start (history ++ rest) = some made := by
  obtain ⟨done, hdone, rfl⟩ := Option.map_eq_some_iff.1 h
  have hlt := (List.getElem?_eq_some_iff.1 hdone).1
  rw [made?, List.getElem?_append_left hlt, hdone, Option.map_some,
    List.take_append_of_le_length (Nat.le_of_lt hlt)]

theorem made?_last (start : Rig) (history : List Step) (step : Step) (number : CallNumber) :
    made? ⟨history.length, number⟩ start (history ++ [step]) =
      some ⟨start.after history, step, number⟩ := by
  rw [made?, List.getElem?_concat_length, Option.map_some, List.take_left]

/-- What stems from an installation stems from an event of the history. -/
theorem exists_made? {start : Rig} {history : List Step} {machine : Nat} {number : CallNumber}
    {made : Installation} (h : Stems start history machine number made) :
    ∃ event : Event, event.made? start history = some made := by
  induction h with
  | installed => exact ⟨_, made?_last _ _ _ _⟩
  | copied _ _ ih =>
    obtain ⟨event, hevent⟩ := ih
    exact ⟨event, made?_append hevent _⟩
  | kept _ _ ih =>
    obtain ⟨event, hevent⟩ := ih
    exact ⟨event, made?_append hevent _⟩

section Names

variable {start : Rig} {history : List Step} {event other : Event} {made another : Installation}
  {entry its : Entry}

/-- Of two installations, the later one gives other names. -/
theorem origin_ne_of_lt (hmade : event.made? start history = some made)
    (hanother : other.made? start history = some another) (hentry : made.Makes entry)
    (hits : another.Makes its) (hlt : event.position < other.position) :
    entry.origin ≠ its.origin := by
  intro horigin
  obtain ⟨step, hstep, rfl⟩ := Option.map_eq_some_iff.1 hmade
  obtain ⟨later, hlater, rfl⟩ := Option.map_eq_some_iff.1 hanother
  obtain ⟨found, hfound, hmem⟩ := hentry
  obtain ⟨after, hafter, hmem'⟩ := hits
  obtain ⟨hmachine, -, hbefore⟩ := Machine.origin_of_mem_stamp hmem
  obtain ⟨hmachine', hbehind, -⟩ := Machine.origin_of_mem_stamp hmem'
  have hself : step.machine = later.machine := by rw [← hmachine, horigin, hmachine']
  -- between the two, the machine has counted what the first one installed
  obtain ⟨next, hnext, hcounted⟩ := Rig.issued_step hfound
  have hbetween : history.take other.position = history.take event.position ++ [step] ++
      (history.drop (event.position + 1)).take (other.position - (event.position + 1)) := by
    have htake : history.take event.position ++ [step] = history.take (event.position + 1) := by
      rw [List.take_add_one, hstep]
      rfl
    rw [htake, ← List.take_add, Nat.add_sub_cancel' hlt]
  have hrig : start.after (history.take other.position) = _ := congrArg start.after hbetween
  rw [Rig.after_append, Rig.after_snoc] at hrig
  obtain ⟨last, hlast, hle⟩ := Rig.issued_le hnext
    ((history.drop (event.position + 1)).take (other.position - (event.position + 1)))
  rw [← hrig, hself] at hlast
  obtain rfl := Option.some.inj (hafter.symm.trans hlast)
  rw [← horigin] at hbehind
  omega

/-- Two installations give one name just if they are one event. -/
theorem origin_eq_iff (hmade : event.made? start history = some made)
    (hanother : other.made? start history = some another) (hentry : made.Makes entry)
    (hits : another.Makes its) : entry.origin = its.origin ↔ event = other := by
  constructor
  · intro horigin
    rcases Nat.lt_trichotomy event.position other.position with hlt | hsame | hgt
    · exact absurd horigin (origin_ne_of_lt hmade hanother hentry hits hlt)
    · obtain ⟨position, number⟩ := event
      obtain ⟨place, target⟩ := other
      obtain rfl : position = place := hsame
      obtain ⟨step, hstep, rfl⟩ := Option.map_eq_some_iff.1 hmade
      obtain ⟨again, hagain, rfl⟩ := Option.map_eq_some_iff.1 hanother
      obtain rfl : step = again := Option.some.inj (hstep.symm.trans hagain)
      obtain ⟨found, hfound, hmem⟩ := hentry
      obtain ⟨twin, htwin, hmem'⟩ := hits
      obtain rfl : found = twin := Option.some.inj (hfound.symm.trans htwin)
      have hnumber := congrArg Prod.fst (Machine.stamp_origin_injective hmem hmem' horigin)
      rw [show number = target from hnumber]
    · exact absurd horigin.symm (origin_ne_of_lt hanother hmade hits hentry hgt)
  · rintro rfl
    obtain rfl : made = another := Option.some.inj (hmade.symm.trans hanother)
    rw [hentry.unique hits]

end Names

end Event

namespace Carries

variable {start : Rig} {history : List Step} {machine : Nat} {number : CallNumber} {event : Event}

/-- What is found under a number was made at the event that the entry carries. -/
theorem makes (h : Carries start history machine number event) {entry : Entry}
    (hl : (start.after history).lookup machine number = some entry) :
    ∃ made, event.made? start history = some made ∧ made.Makes entry := by
  obtain ⟨made, hmade, hstems⟩ := h
  obtain ⟨found, hmakes, hfound⟩ := Installation.Makes.of_stems hstems
  obtain rfl : found = entry := Option.some.inj (hfound.symm.trans hl)
  exact ⟨made, hmade, hmakes⟩

/-- An entry keeps its event in every step that does not replace it. -/
theorem snoc (h : Carries start history machine number event) {step : Step}
    (hkept : ¬ (start.after history).Replaces step machine number) :
    Carries start (history ++ [step]) machine number event := by
  obtain ⟨made, hmade, hstems⟩ := h
  exact ⟨made, Event.made?_append hmade [step], .kept hstems hkept⟩

/-- Entries have one origin just if they carry one event. -/
theorem origin_eq_iff {another : Nat} {target : CallNumber} {other : Event} {entry its : Entry}
    (h : Carries start history machine number event)
    (hother : Carries start history another target other)
    (hl : (start.after history).lookup machine number = some entry)
    (hits : (start.after history).lookup another target = some its) :
    entry.origin = its.origin ↔ event = other := by
  obtain ⟨made, hmade, hentry⟩ := h.makes hl
  obtain ⟨remade, hremade, hremakes⟩ := hother.makes hits
  exact Event.origin_eq_iff hmade hremade hentry hremakes

end Carries

theorem exists_carries {session : Session} {start : Rig} (hstart : session.rig = .ok start)
    (history : List Step) {machine : Nat} {number : CallNumber} {entry : Entry}
    (h : (start.after history).lookup machine number = some entry) :
    ∃ event, Carries start history machine number event := by
  obtain ⟨made, hstems⟩ := Rig.exists_stems hstart history h
  obtain ⟨event, hevent⟩ := Event.exists_made? hstems
  exact ⟨event, made, hevent, hstems⟩

/-- A step that compares two entries compares their origins. -/
theorem Rig.step_same {rig : Rig} {machine another : Nat} {number target : CallNumber}
    {entry its : Entry} (hl : rig.lookup machine number = some entry)
    (hits : rig.lookup another target = some its) :
    rig.step ⟨another, .same number target machine⟩ =
      ⟨rig, .flag (decide (entry.origin = its.origin)), []⟩ := by
  obtain ⟨there, hthere, -⟩ :=
    Option.bind_eq_some_iff.1 ((rig.lookup_eq machine number).symm.trans hl)
  obtain ⟨here, hhere, hregistry⟩ :=
    Option.bind_eq_some_iff.1 ((rig.lookup_eq another target).symm.trans hits)
  have hlt := (List.getElem?_eq_some_iff.1 hthere).1
  rw [Rig.step_of_machine hhere]
  simp only [Rig.serve, if_pos hlt, Rig.same, hl, hregistry]
  rfl

/-- At any time of a session, an entry that is present carries one installation event. Two entries
are one, as a comparison tells, just if they carry the same event, and then they are equal in
everything. A step that replaces, takes out or clears entries leaves all others what they are, with
their events, and what later calls of the others and requests about boards and banks are told is
what they would have been told without the step. -/
theorem identity_is_provenance {session : Session} {start : Rig} (hstart : session.rig = .ok start)
    (history : List Step) :
    let rig := start.after history
    (∀ machine number entry, rig.lookup machine number = some entry →
      ∃ event, Carries start history machine number event ∧
        ∀ other, Carries start history machine number other → other = event) ∧
    (∀ machine number entry event, rig.lookup machine number = some entry →
      Carries start history machine number event →
      ∀ another target its other, rig.lookup another target = some its →
        Carries start history another target other →
        (rig.step ⟨another, .same number target machine⟩).answer =
            .flag (decide (event = other)) ∧
          (entry.origin = its.origin ↔ event = other) ∧ (event = other → entry = its)) ∧
    (∀ step machine number, rig.Replaces step machine number →
      (∀ another target, ¬ rig.Replaces step another target →
        (rig.step step).rig.lookup another target = rig.lookup another target ∧
        ∀ event, Carries start history another target event →
          Carries start (history ++ [step]) another target event) ∧
      ∀ rest, (∀ later ∈ rest, rig.Spares step later) →
        ((rig.step step).rig.run rest).map Rig.told = (rig.run rest).map Rig.told) := by
  intro rig
  refine ⟨?_, ?_, ?_⟩
  · intro machine number entry hl
    obtain ⟨event, hevent⟩ := exists_carries hstart history hl
    exact ⟨event, hevent, fun other hother => (hother.origin_eq_iff hevent hl hl).1 rfl⟩
  · intro machine number entry event hl hevent another target its other hits hother
    have horigin := hevent.origin_eq_iff hother hl hits
    refine ⟨?_, horigin, ?_⟩
    · rw [Rig.step_same hl hits]
      exact congrArg Reply.flag (decide_eq_decide.2 horigin)
    · rintro rfl
      obtain ⟨made, hmade, hmakes⟩ := hevent.makes hl
      obtain ⟨remade, hremade, hremakes⟩ := hother.makes hits
      obtain rfl : made = remade := Option.some.inj (hmade.symm.trans hremade)
      exact hmakes.unique hremakes
  · intro step machine number hreplaces
    refine ⟨fun another target hkept => ⟨Rig.lookup_of_kept hkept, fun event hevent => ?_⟩, ?_⟩
    · exact hevent.snoc hkept
    · exact fun rest hrest => Rig.run_of_spares hreplaces hrest

/-- Two runtimes and a machine of parts. -/
def handedSession : Session where
  filter := some (.upTo .trace)
  banks := []
  machines := [.runtime 1, .runtime 2, .parts none]
  steps := []

def handedRig : Rig :=
  ⟨[{ platform := some 1 }, { platform := some 2 }, {}], [], some (.upTo .trace)⟩

/-- A counter is handed on from machine to machine and then installed anew where it came from, and
everything is registered twice. -/
def handedSteps : List Step :=
  [⟨0, .registerRoutine 7 .counter⟩, ⟨1, .copy 7 8 0⟩, ⟨2, .copy 8 9 1⟩, ⟨0, .registerStandard⟩,
    ⟨1, .copy .ledOn 7 0⟩, ⟨0, .registerRoutine 7 .counter⟩, ⟨0, .registerStandard⟩]

/-- The copies are one counter, which goes on counting where it is left, and the counter that was
installed anew is another one, as is the LED handler. -/
theorem identity_is_provenance_handed :
    let rig := handedRig.after handedSteps
    let call : List Step := [⟨2, .invoke 9 ⟨0, 0, 0⟩⟩, ⟨0, .invoke 7 ⟨0, 0, 0⟩⟩]
    (∃ event, Carries handedRig handedSteps 1 8 event ∧
      Carries handedRig handedSteps 2 9 event) ∧
    (∀ event, Carries handedRig handedSteps 0 7 event →
      ¬ Carries handedRig handedSteps 2 9 event) ∧
    (∀ event, Carries handedRig handedSteps 1 7 event →
      ¬ Carries handedRig handedSteps 0 .ledOn event) ∧
    ((rig.step ⟨1, .clear⟩).rig.run call).map Rig.told = (rig.run call).map Rig.told := by
  intro rig call
  have hstart : handedSession.rig = .ok handedRig := rfl
  obtain ⟨hone, hsame, hothers⟩ := identity_is_provenance hstart handedSteps
  have hcounter : rig.lookup 1 8 = some ⟨⟨0, 0⟩, .custom .counter⟩ := by decide
  have hcopy : rig.lookup 2 9 = some ⟨⟨0, 0⟩, .custom .counter⟩ := by decide
  have hanew : rig.lookup 0 7 = some ⟨⟨0, 12⟩, .custom .counter⟩ := by decide
  have hlent : rig.lookup 1 7 = some ⟨⟨0, 1⟩, .led .on 0⟩ := by decide
  have hled : rig.lookup 0 .ledOn = some ⟨⟨0, 13⟩, .led .on 0⟩ := by decide
  obtain ⟨event, hevent, -⟩ := hone 1 8 _ hcounter
  obtain ⟨other, hother, -⟩ := hone 2 9 _ hcopy
  refine ⟨⟨event, hevent, ?_⟩, ?_, ?_, ?_⟩
  · obtain ⟨-, horigin, -⟩ := hsame 1 8 _ event hcounter hevent 2 9 _ other hcopy hother
    rw [horigin.1 rfl]
    exact hother
  · intro made hmade hcarried
    obtain ⟨-, horigin, -⟩ := hsame 0 7 _ made hanew hmade 2 9 _ made hcopy hcarried
    cases horigin.2 rfl
  · intro made hmade hcarried
    obtain ⟨-, horigin, -⟩ := hsame 1 7 _ made hlent hmade 0 .ledOn _ made hled hcarried
    cases horigin.2 rfl
  · refine (hothers ⟨1, .clear⟩ 1 8 ⟨rfl, trivial⟩).2 call fun later hlater => Or.inr ?_
    rcases List.mem_cons.1 hlater with rfl | hlater
    · exact ⟨9, ⟨0, 0, 0⟩, rfl, fun h => by cases h.1⟩
    · rw [List.mem_singleton.1 hlater]
      exact ⟨7, ⟨0, 0, 0⟩, rfl, fun h => by cases h.1⟩

end Switchboard
