import Switchboard.Proofs.Change
import Switchboard.Proofs.Identity
import Switchboard.Proofs.Split

/-!
# How often a handler runs

A call of an entry that is present is one turn of its handler. A counting handler shows that no
other step runs it: its count lies with the machine that installed it, under the name that all its
copies bear, and only a call of an entry of this name adds to it, by one. So the calls of a counter
are told 1, 2, 3 and so on, under whatever numbers and on whatever machines they are made.
-/
namespace Switchboard

/-- The step at the position is a call, and the entry under its number carries the event. -/
def CalledAt (start : Rig) (history : List Step) (event : Event) (position : Nat) : Prop :=
  ∃ step number arguments, history[position]? = some step ∧
    step.request.call? = some (number, arguments) ∧
    Carries start (history.take position) step.machine number event

theorem Machine.runs_tally (machine : Machine) (serial other : Nat) :
    (machine.tally serial).runs other =
      if other = serial then machine.runs serial + 1 else machine.runs other := by
  rw [runs, tally, SortedMap.get?_insert]
  split <;> rfl

namespace Rig

/-- The entry that a step calls. -/
def called? (rig : Rig) (step : Step) : Option Entry := do
  let (number, _) ← step.request.call?
  rig.lookup step.machine number

/-- How often the counter of this origin ran. -/
def runs (rig : Rig) (origin : Origin) : Nat :=
  (rig.machines[origin.machine]?.map (·.runs origin.serial)).getD 0

/-- The positions of the steps that call the counter of this origin, in order. -/
def callsOf (rig : Rig) (origin : Origin) : List Step → List Nat
  | [] => []
  | step :: rest =>
    let later := ((rig.step step).rig.callsOf origin rest).map (· + 1)
    if rig.called? step = some ⟨origin, .custom .counter⟩ then 0 :: later else later

theorem called?_eq_some_iff (rig : Rig) (step : Step) (entry : Entry) :
    rig.called? step = some entry ↔ ∃ number arguments,
      step.request.call? = some (number, arguments) ∧
        rig.lookup step.machine number = some entry := by
  constructor
  · intro h
    obtain ⟨⟨number, arguments⟩, hcall, hl⟩ := Option.bind_eq_some_iff.1 h
    exact ⟨number, arguments, hcall, hl⟩
  · rintro ⟨number, arguments, hcall, hl⟩
    exact Option.bind_eq_some_iff.2 ⟨(number, arguments), hcall, hl⟩

section Step

variable {rig : Rig} {step : Step} {origin : Origin}

theorem runs_of_machine {home : Machine} (h : rig.machines[origin.machine]? = some home) :
    rig.runs origin = home.runs origin.serial := by
  rw [runs, h, Option.map_some, Option.getD_some]

/-- Another machine in one place, which counted as often. -/
theorem runs_putMachine {place : Nat} {before put : Machine}
    (hm : rig.machines[place]? = some before)
    (hput : place = origin.machine → put.runs origin.serial = before.runs origin.serial) :
    (rig.putMachine place put).runs origin = rig.runs origin := by
  rw [runs, putMachine_map (·.runs origin.serial) hm hput, runs]

/-- What is not a call of the counter does not count. -/
theorem Change.runs {after : Rig} (h : Change rig step after)
    (hother : rig.called? step ≠ some ⟨origin, .custom .counter⟩) :
    after.runs origin = rig.runs origin := by
  cases h with
  | nothing => rfl
  | machine hm _ htallies =>
    refine runs_putMachine hm fun _ => ?_
    rw [Machine.runs, Machine.runs, htallies]
  | pointed hm _ => exact runs_putMachine hm fun _ => rfl
  | @counted home counted number arguments hm hc hl =>
    have hne : counted ≠ origin := by
      rintro rfl
      exact hother ((rig.called?_eq_some_iff step _).2 ⟨number, arguments, hc, hl⟩)
    refine runs_putMachine hm fun hhome => ?_
    have hserial : origin.serial ≠ counted.serial := by
      intro hserial
      apply hne
      cases counted
      cases hhome
      cases hserial
      rfl
    rw [Machine.runs_tally, if_neg hserial]
  | @lit owner command _ =>
    show (rig.led owner command).rig.runs origin = rig.runs origin
    simp only [Rig.runs, led_machines]
  | driven _ _ => rfl

/-- A call of a counter counts one run, and tells how many there are. -/
theorem step_of_counter (hhome : origin.machine < rig.machines.length)
    (h : rig.called? step = some ⟨origin, .custom .counter⟩) :
    (rig.step step).answer = .value (Int32.ofNat (rig.runs origin + 1)) ∧
      (rig.step step).rig.runs origin = rig.runs origin + 1 := by
  obtain ⟨number, arguments, hc, hl⟩ := (rig.called?_eq_some_iff step _).1 h
  have hm := List.getElem?_eq_getElem hhome
  have htally : rig.tally origin =
      ⟨rig.putMachine origin.machine (rig.machines[origin.machine].tally origin.serial),
        rig.runs origin, []⟩ := by
    rw [runs_of_machine hm]
    simp only [tally, hm]
  have hstep : rig.step step = _ := step_of_call hc hl
  rw [hstep]
  simp only [dispatch, htally]
  refine ⟨rfl, ?_⟩
  rw [runs_of_machine (putMachine_get hm _), runs_of_machine hm, Machine.runs_tally, if_pos rfl]

end Step

theorem mem_callsOf (rig : Rig) (origin : Origin) (steps : List Step) (position : Nat) :
    position ∈ rig.callsOf origin steps ↔ ∃ step, steps[position]? = some step ∧
      (rig.after (steps.take position)).called? step = some ⟨origin, .custom .counter⟩ := by
  induction steps generalizing rig position with
  | nil => simp [callsOf]
  | cons step rest ih =>
    cases position with
    | zero =>
      rw [callsOf]
      split <;> rename_i hcalled <;> simp [hcalled]
    | succ position =>
      have hlater : position + 1 ∈ rig.callsOf origin (step :: rest) ↔
          position ∈ (rig.step step).rig.callsOf origin rest := by
        rw [callsOf]
        split <;> simp
      rw [hlater, ih]
      rfl

theorem callsOf_ascending (rig : Rig) (origin : Origin) (steps : List Step) :
    (rig.callsOf origin steps).Pairwise (· < ·) := by
  induction steps generalizing rig with
  | nil => exact List.Pairwise.nil
  | cons step rest ih =>
    have hlater : (((rig.step step).rig.callsOf origin rest).map (· + 1)).Pairwise (· < ·) :=
      List.pairwise_map.2 ((ih (rig.step step).rig).imp Nat.succ_lt_succ)
    rw [callsOf]
    split
    · refine List.pairwise_cons.2 ⟨fun position h => ?_, hlater⟩
      obtain ⟨earlier, -, rfl⟩ := List.mem_map.1 h
      exact Nat.succ_pos earlier
    · exact hlater

section Run

variable {rig : Rig} {origin : Origin}

/-- The counter runs once for each of its calls and never else. -/
theorem runs_after (hhome : origin.machine < rig.machines.length) (steps : List Step) :
    (rig.after steps).runs origin = rig.runs origin + (rig.callsOf origin steps).length := by
  induction steps generalizing rig with
  | nil => rfl
  | cons step rest ih =>
    have hnext := ih ((rig.step_lengths step).1 ▸ hhome)
    rw [after_cons, hnext, callsOf]
    split
    · rename_i hcalled
      rw [(step_of_counter hhome hcalled).2, List.length_cons, List.length_map]
      omega
    · rename_i hother
      rw [(rig.change_step step).runs hother, List.length_map]

/-- Each call is told how many runs there are with it. -/
theorem reply_of_callsOf (hhome : origin.machine < rig.machines.length) {steps : List Step}
    {i position : Nat} (h : (rig.callsOf origin steps)[i]? = some position) :
    ((rig.run steps)[position]?).map Report.reply =
      some (.value (Int32.ofNat (rig.runs origin + i + 1))) := by
  induction steps generalizing rig i position with
  | nil => cases h
  | cons step rest ih =>
    have hhome' : origin.machine < (rig.step step).rig.machines.length :=
      (rig.step_lengths step).1 ▸ hhome
    -- a call that comes after the first step is one of the run that is left
    have hlater : ∀ j, (((rig.step step).rig.callsOf origin rest).map (· + 1))[j]? =
        some position → ((rig.run (step :: rest))[position]?).map Report.reply =
          some (.value (Int32.ofNat ((rig.step step).rig.runs origin + j + 1))) := by
      intro j hj
      rw [List.getElem?_map] at hj
      obtain ⟨earlier, hearlier, rfl⟩ := Option.map_eq_some_iff.1 hj
      exact ih hhome' hearlier
    rw [callsOf] at h
    split at h
    · rename_i hcalled
      obtain ⟨hanswer, hruns⟩ := step_of_counter hhome hcalled
      cases i with
      | zero =>
        cases h
        exact congrArg some hanswer
      | succ i =>
        have hreply := hlater i h
        rw [hruns] at hreply
        rw [hreply]
        congr 3
        omega
    · rename_i hother
      rw [← (rig.change_step step).runs hother]
      exact hlater i h

end Run

end Rig

section Sessions

variable {session : Session} {start : Rig} {history : List Step} {event : Event}
  {made : Installation} {entry : Entry}

/-- An installation is made on a machine of the session, and names it. -/
theorem Event.home_lt (hmade : event.made? start history = some made) (hmakes : made.Makes entry) :
    entry.origin.machine < start.machines.length := by
  obtain ⟨step, -, rfl⟩ := Option.map_eq_some_iff.1 hmade
  obtain ⟨found, hfound, hmem⟩ := hmakes
  rw [(Machine.origin_of_mem_stamp hmem).1]
  have hlt := (List.getElem?_eq_some_iff.1 hfound).1
  rwa [(start.after_lengths _).1] at hlt

/-- To call what carries an event is to call the entry that was made there. -/
theorem calledAt_iff (hstart : session.rig = .ok start)
    (hmade : event.made? start history = some made) (hmakes : made.Makes entry) (position : Nat) :
    CalledAt start history event position ↔ ∃ step, history[position]? = some step ∧
      (start.after (history.take position)).called? step = some entry := by
  -- what is an event after some steps is the same event in the whole history
  have hwhole : ∀ {other : Event} {another : Installation},
      other.made? start (history.take position) = some another →
        other.made? start history = some another := by
    intro other another h
    have happend := Event.made?_append h (history.drop position)
    rwa [List.take_append_drop] at happend
  constructor
  · rintro ⟨step, number, arguments, hstep, hc, another, hanother, hstems⟩
    obtain rfl : made = another := Option.some.inj (hmade.symm.trans (hwhole hanother))
    obtain ⟨found, hfound, hl⟩ := Installation.Makes.of_stems hstems
    obtain rfl : found = entry := hfound.unique hmakes
    exact ⟨step, hstep, (Rig.called?_eq_some_iff _ step _).2 ⟨number, arguments, hc, hl⟩⟩
  · rintro ⟨step, hstep, hcalled⟩
    obtain ⟨number, arguments, hc, hl⟩ := (Rig.called?_eq_some_iff _ step _).1 hcalled
    obtain ⟨other, hcarries⟩ := exists_carries hstart _ hl
    obtain ⟨another, hanother, hfound⟩ := hcarries.makes hl
    obtain rfl : event = other :=
      (Event.origin_eq_iff hmade (hwhole hanother) hmakes hfound).1 rfl
    exact ⟨step, number, arguments, hstep, hc, hcarries⟩

/-- No counter ran before a session. -/
theorem Session.runs_start (hstart : session.rig = .ok start) (origin : Origin) :
    start.runs origin = 0 := by
  cases hhome : start.machines[origin.machine]? with
  | none => rw [Rig.runs, hhome, Option.map_none, Option.getD_none]
  | some home =>
    obtain ⟨platform, board, rfl⟩ := session.machine_fresh hstart hhome
    rw [Rig.runs_of_machine hhome]
    rfl

end Sessions

/-- At any time of a session, a call of an entry that is present is one turn of its handler. A
counter that an event installed runs once for each call of an entry that carries the event, on
whatever machine and under whatever number, and never else: its runs are as many as these calls,
and the calls are told 1, 2, 3 and so on in the order in which they are made, up to the largest
answer that there is. -/
theorem counter_counts_calls {session : Session} {start : Rig}
    (hstart : session.rig = .ok start) (history : List Step) :
    (∀ step number arguments entry, step.request.call? = some (number, arguments) →
      (start.after history).lookup step.machine number = some entry →
      let turn := (start.after history).dispatch entry number arguments
      (start.after history).step step = ⟨turn.rig, .value turn.answer, turn.effects⟩) ∧
    (∀ (event : Event) made origin, event.made? start history = some made →
      made.Makes ⟨origin, .custom .counter⟩ →
      ∃ calls : List Nat, calls.Pairwise (· < ·) ∧
        (∀ position, position ∈ calls ↔ CalledAt start history event position) ∧
        (start.after history).runs origin = calls.length ∧
        ∀ i position : Nat, calls[i]? = some position → i < Int32.maxValue.toInt →
          ∃ value : Int32, value.toInt = i + 1 ∧
            ((start.run history)[position]?).map Report.reply = some (.value value)) := by
  refine ⟨fun step number arguments entry hc hl => Rig.step_of_call hc hl, ?_⟩
  intro event made origin hmade hmakes
  have hhome : origin.machine < start.machines.length := Event.home_lt hmade hmakes
  have hzero := Session.runs_start hstart origin
  refine ⟨start.callsOf origin history, start.callsOf_ascending origin history, ?_, ?_, ?_⟩
  · intro position
    rw [calledAt_iff hstart hmade hmakes, Rig.mem_callsOf]
  · rw [Rig.runs_after hhome, hzero, Nat.zero_add]
  · intro i position hi hbound
    have hmax : Int32.maxValue.toInt = 2147483647 := rfl
    refine ⟨Int32.ofNat (i + 1), Int32.toInt_ofNat_of_lt (by omega), ?_⟩
    rw [Rig.reply_of_callsOf hhome hi, hzero, Nat.zero_add]

def countedSession : Session where
  filter := some (.upTo .trace)
  banks := []
  machines := [.parts none, .runtime 3]
  steps := []

def countedRig : Rig := ⟨[{}, { platform := some 3 }], [], some (.upTo .trace)⟩

/-- A counter is lent to another machine, and then replaced by another one where it came from. -/
def countedSteps : List Step :=
  [⟨0, .registerRoutine 7 .counter⟩, ⟨1, .copy 7 9 0⟩, ⟨0, .invoke 7 ⟨0, 0, 0⟩⟩,
    ⟨1, .tryInvoke 9 ⟨0, 0, 0⟩⟩, ⟨0, .register 7 (some .counter)⟩, ⟨0, .invoke 7 ⟨0, 0, 0⟩⟩,
    ⟨0, .invoke 9 ⟨0, 0, 0⟩⟩, ⟨1, .invoke 9 ⟨5, 6, 7⟩⟩, ⟨1, .unregister 9⟩,
    ⟨1, .invoke 9 ⟨0, 0, 0⟩⟩]

/-- The first counter is called three times, and its last call on the other machine is told so
although the second counter ran before. -/
theorem counter_counts_calls_lent :
    ∃ calls : List Nat, calls.Pairwise (· < ·) ∧ calls.length = 3 ∧
      (∀ position, position ∈ calls ↔ CalledAt countedRig countedSteps ⟨0, 7⟩ position) ∧
      (∀ i position : Nat, calls[i]? = some position → i < Int32.maxValue.toInt →
        ∃ value : Int32, value.toInt = i + 1 ∧
          ((countedRig.run countedSteps)[position]?).map Report.reply = some (.value value)) ∧
      (countedRig.run countedSteps).map Report.reply =
        [.nothing, .flag true, .value 1, .value 2, .flag true, .value 1, .value (-1), .value 3,
          .nothing, .value (-1)] ∧
      (countedRig.after countedSteps).step ⟨0, .invoke 7 ⟨0, 0, 0⟩⟩ =
        ((countedRig.after countedSteps).dispatch ⟨⟨0, 1⟩, .custom .counter⟩ 7 ⟨0, 0, 0⟩).finish
          .value (fun _ => []) := by
  have hstart : countedSession.rig = .ok countedRig := rfl
  obtain ⟨hturn, hcounter⟩ := counter_counts_calls hstart countedSteps
  have hmakes : Installation.Makes ⟨countedRig, ⟨0, .registerRoutine 7 .counter⟩, 7⟩
      ⟨⟨0, 0⟩, .custom .counter⟩ := ⟨{}, rfl, List.mem_cons_self⟩
  obtain ⟨calls, hordered, hmem, hruns, htold⟩ := hcounter ⟨0, 7⟩ _ ⟨0, 0⟩ rfl hmakes
  have hthree : (countedRig.after countedSteps).runs ⟨0, 0⟩ = 3 := by decide
  have hanew : (countedRig.after countedSteps).lookup 0 7 =
      some ⟨⟨0, 1⟩, .custom .counter⟩ := by decide
  refine ⟨calls, hordered, hruns.symm.trans hthree, hmem, htold, by decide, ?_⟩
  exact hturn ⟨0, .invoke 7 ⟨0, 0, 0⟩⟩ 7 ⟨0, 0, 0⟩ _ rfl hanew

end Switchboard
