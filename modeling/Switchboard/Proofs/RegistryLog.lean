import Switchboard.Proofs.FilingLine
import Switchboard.Proofs.Restoring

/-!
# The log is a second account of the registries

A session that shows debugging shows by one line each entry that is put into a registry. Entries are
taken out without a line, but only by two kinds of steps. The lines of a machine's steps, together
with its steps of these two kinds, therefore determine the numbers that its registry has: a roll
that is kept from them has, after each step, the numbers that the registry has.
-/
namespace Switchboard

/-- A clue to the numbers of a registry: a line of the log, or a step that takes entries out. -/
inductive Clue where
  | line (text : String)
  | unregister (number : CallNumber)
  | clear
  deriving DecidableEq

/-- The line tells of a number that was free. -/
def Clue.fresh : Clue → Bool
  | line text => Filing.opens false text
  | _ => false

def Request.removal? : Request → Option Clue
  | .unregister number => some (.unregister number)
  | .clear => some .clear
  | _ => none

/-- The clues to the registry of machine `self` that a step and its lines give. -/
def Step.clues (self : Nat) (step : Step) (log : List String) : List Clue :=
  if step.machine = self then
    (log.filter Filing.announces).map .line ++ step.request.removal?.toList
  else []

/-- The clues to the registry of machine `self` that steps give, each with its lines. -/
def cluesOf (self : Nat) (steps : List Step) (logs : List (List String)) : List Clue :=
  (steps.zip logs).flatMap fun item => item.1.clues self item.2

/-- Numbers that a registry is held to have. -/
abbrev Roll := SortedMap CallNumber Unit

namespace Roll

def heed (roll : Roll) : Clue → Roll
  | .line text =>
    match Filing.ofLine? text with
    | none => roll
    | some filing => roll.insert filing.number ()
  | .unregister number => roll.erase number
  | .clear => .empty

def heedAll (roll : Roll) (clues : List Clue) : Roll := clues.foldl heed roll

/-- The numbers of a registry that started empty, from the clues alone. -/
def rebuild (clues : List Clue) : List CallNumber := (heedAll .empty clues).keys

/-- The roll has the numbers that the machine has. -/
def Mirrors (roll : Roll) (rig : Rig) (self : Nat) : Prop :=
  ∀ number, (roll.get? number).isSome = (rig.lookup self number).isSome

end Roll

namespace Rig

/-- The numbers of a machine, none if there is no such machine. -/
def numbers (rig : Rig) (self : Nat) : List CallNumber :=
  match rig.machines[self]? with
  | none => []
  | some machine => machine.registry.keys

/-- How many entries an unregistration or a clearing of the machine takes out. -/
def removed (rig : Rig) (self : Nat) (step : Step) : Nat :=
  if step.machine = self ∧ step.request.removal?.isSome then
    ((rig.numbers self).filter fun number =>
      ((rig.step step).rig.lookup self number).isNone).length
  else 0

def removals (rig : Rig) (self : Nat) : List Step → Nat
  | [] => 0
  | step :: rest => rig.removed self step + (rig.step step).rig.removals self rest

/-- The lines that the steps write. -/
def logs (rig : Rig) (steps : List Step) : List (List String) := (rig.run steps).map (·.lines)

end Rig

section Roll

variable {rig : Rig} {self : Nat} {step : Step}
  (hdebug : Level.debug.passes rig.filter = true)

/-- A step whose machine loses entries files none. -/
theorem Rig.files_of_removal (h : step.request.removal? ≠ none) : rig.files step = [] := by
  obtain ⟨self, request⟩ := step
  cases request with
  | unregister | clear =>
    unfold files
    split <;> rfl
  | _ => exact absurd rfl h

theorem Request.countP_removal? (request : Request) :
    request.removal?.toList.countP Clue.fresh = 0 := by
  cases request <;> rfl

theorem not_removes (h : step.request.removal? = none) (machine : Nat) (number : CallNumber) :
    ¬ Removes step machine number := by
  rintro ⟨⟩ <;> cases h

/-- A step of another machine leaves the registry alone. -/
theorem Rig.lookup_step_other (h : step.machine ≠ self) (number : CallNumber) :
    (rig.step step).rig.lookup self number = rig.lookup self number := by
  rw [lookup_step, if_neg (Ne.symm h)]

include hdebug in
/-- The clues of a step are a line for each number that it files and its own removal. -/
theorem Rig.clues_report (h : step.machine = self) :
    step.clues self (rig.report step).lines =
      ((rig.files step).map fun number => Clue.line (rig.filing self number).line) ++
        step.request.removal?.toList := by
  subst h
  rw [Step.clues, if_pos rfl, announced_report hdebug, List.map_map]
  rfl

namespace Roll

theorem heed_line (roll : Roll) (filing : Filing) :
    roll.heed (.line filing.line) = roll.insert filing.number () := by
  simp only [heed, Filing.ofLine?_line]

/-- Lines add the numbers that they tell. -/
theorem isSome_heedAll_lines (roll : Roll) (told : CallNumber → Filing)
    (htold : ∀ number, (told number).number = number) (numbers : List CallNumber)
    (number : CallNumber) :
    ((roll.heedAll (numbers.map fun number => Clue.line (told number).line)).get? number).isSome =
        true ↔
      (roll.get? number).isSome = true ∨ number ∈ numbers := by
  induction numbers generalizing roll with
  | nil => exact (or_iff_left List.not_mem_nil).symm
  | cons first rest ih =>
    change ((heedAll (roll.heed (.line (told first).line)) _).get? number).isSome = true ↔ _
    rw [ih, heed_line, htold, SortedMap.get?_insert, List.mem_cons]
    by_cases h : number = first
    · rw [if_pos h]
      exact iff_of_true (.inl rfl) (.inr (.inl h))
    · rw [if_neg h, or_iff_right h]

/-- A roll loses what the registry loses. -/
theorem Mirrors.after_removal {roll : Roll} (h : roll.Mirrors rig self) {request : Request}
    {clue : Clue} (hremoval : request.removal? = some clue) :
    (roll.heed clue).Mirrors (rig.step ⟨self, request⟩).rig self := by
  intro number
  cases request with
  | unregister gone =>
    cases hremoval
    rw [heed, SortedMap.get?_erase]
    by_cases hgone : number = gone
    · subst hgone
      rw [if_pos rfl, Rig.lookup_of_removes .unregister]
      rfl
    · have hkept : ¬ rig.Replaces ⟨self, .unregister gone⟩ self number :=
        fun hreplaces => hgone hreplaces.2.symm
      rw [if_neg hgone, h number, Rig.lookup_of_kept hkept]
  | clear =>
    cases hremoval
    rw [Rig.lookup_of_removes .clear]
    rfl
  | _ => cases hremoval

include hdebug in
/-- What the roll has before a step it has after it. A step of another machine gives no clue; one
that takes entries out writes no line, and every other one only adds numbers. -/
theorem Mirrors.after_step {roll : Roll} (h : roll.Mirrors rig self)
    (hself : self < rig.machines.length) :
    (roll.heedAll (step.clues self (rig.report step).lines)).Mirrors (rig.step step).rig
      self := by
  intro number
  by_cases hmachine : step.machine = self
  · rw [Rig.clues_report hdebug hmachine]
    subst hmachine
    cases hremoval : step.request.removal? with
    | none =>
      rw [Option.toList_none, List.append_nil, Bool.eq_iff_iff,
        isSome_heedAll_lines _ _ fun _ => rfl, h number, Rig.isSome_lookup_step hself,
        and_iff_left (not_removes hremoval _ _)]
    | some clue =>
      have hsome : step.request.removal? ≠ none := by
        rw [hremoval]
        exact Option.some_ne_none _
      rw [Rig.files_of_removal hsome]
      exact h.after_removal hremoval number
  · rw [Step.clues, if_neg hmachine, Rig.lookup_step_other hmachine]
    exact h number

end Roll

namespace Rig

theorem registered_eq (rig : Rig) (self : Nat) :
    rig.registered self = (rig.numbers self).length := by
  unfold registered numbers
  cases rig.machines[self]? with
  | none => rfl
  | some machine => exact (SortedMap.length_keys _).symm

theorem nodup_numbers (rig : Rig) (self : Nat) : (rig.numbers self).Nodup := by
  unfold numbers
  split
  · exact List.nodup_nil
  · exact SortedMap.nodup_keys _

theorem mem_numbers (rig : Rig) (self : Nat) (number : CallNumber) :
    number ∈ rig.numbers self ↔ (rig.lookup self number).isSome = true := by
  rw [numbers, lookup_eq]
  cases rig.machines[self]? with
  | none => exact iff_of_false List.not_mem_nil Bool.false_ne_true
  | some machine => exact SortedMap.mem_keys _ _

/-- Entries under new numbers are counted, and the others are not. -/
theorem registered_of_mem {after : Rig} {added : List CallNumber} (hadded : added.Nodup)
    (h : ∀ number, (after.lookup self number).isSome = true ↔
      (rig.lookup self number).isSome = true ∨ number ∈ added) :
    after.registered self =
      rig.registered self + (added.filter (· ∉ rig.numbers self)).length := by
  rw [registered_eq, registered_eq]
  refine length_of_union (nodup_numbers _ _) hadded (nodup_numbers _ _) fun number => ?_
  rw [mem_numbers, mem_numbers, h]

theorem registered_congr {after : Rig}
    (h : ∀ number, after.lookup self number = rig.lookup self number) :
    after.registered self = rig.registered self :=
  registered_of_mem List.nodup_nil fun number => by
    rw [h, or_iff_left List.not_mem_nil]

/-- Entries that are taken out are what there was less what there is. -/
theorem registered_of_subset {after : Rig}
    (h : ∀ number, (after.lookup self number).isSome = true →
      (rig.lookup self number).isSome = true) :
    after.registered self +
        ((rig.numbers self).filter fun number => (after.lookup self number).isNone).length =
      rig.registered self := by
  have hleft : (after.numbers self).length =
      ((rig.numbers self).filter fun number => (after.lookup self number).isSome).length := by
    apply List.Perm.length_eq
    rw [List.perm_ext_iff_of_nodup (nodup_numbers _ _) ((nodup_numbers _ _).filter _)]
    intro number
    rw [List.mem_filter, mem_numbers, mem_numbers]
    exact ⟨fun hmem => ⟨h number hmem, hmem⟩, fun hmem => hmem.2⟩
  rw [registered_eq, registered_eq, hleft]
  simp only [← Option.not_isSome]
  exact (List.length_eq_length_filter_add _).symm

include hdebug in
/-- The lines of a step that tell of free numbers are those of the entries that are added. -/
theorem countP_fresh_report (h : step.machine = self) :
    (step.clues self (rig.report step).lines).countP Clue.fresh =
      ((rig.files step).filter (· ∉ rig.numbers self)).length := by
  rw [clues_report hdebug h, List.countP_append, Request.countP_removal?, Nat.add_zero,
    List.countP_map, List.countP_eq_length_filter]
  congr 2
  funext number
  simp only [Function.comp, Clue.fresh, Filing.opens_line, filing, mem_numbers]
  cases (rig.lookup self number).isSome <;> rfl

include hdebug in
/-- Over one step, the count of entries goes up by the lines that tell of free numbers, and down by
what is taken out. No step does both. -/
theorem registered_step (hself : self < rig.machines.length) :
    (rig.step step).rig.registered self + rig.removed self step =
      rig.registered self +
        (step.clues self (rig.report step).lines).countP Clue.fresh := by
  by_cases hmachine : step.machine = self
  · rw [countP_fresh_report hdebug hmachine]
    subst hmachine
    -- either nothing is taken out, or nothing is added and no line is written
    by_cases hremoval : step.request.removal? = none
    · have hkept : rig.removed step.machine step = 0 := if_neg fun h => by
        rw [hremoval] at h
        exact absurd h.2 Bool.false_ne_true
      rw [hkept]
      refine registered_of_mem (nodup_files _ _) fun number => ?_
      rw [isSome_lookup_step hself, and_iff_left (not_removes hremoval _ _)]
    · rw [files_of_removal hremoval, removed, if_pos ⟨rfl, Option.isSome_iff_ne_none.2 hremoval⟩]
      refine registered_of_subset fun number hleft => ?_
      rw [isSome_lookup_step hself, files_of_removal hremoval,
        or_iff_left List.not_mem_nil] at hleft
      exact hleft.1
  · rw [Step.clues, if_neg hmachine, removed, if_neg fun h => hmachine h.1]
    exact registered_congr (lookup_step_other hmachine)

theorem step_numbers (hself : self < rig.machines.length) :
    (rig.step ⟨self, .numbers⟩).answer = .numbers (rig.numbers self) := by
  have hm := List.getElem?_eq_getElem hself
  rw [step_of_machine hm, numbers, hm]
  rfl

theorem step_count (hself : self < rig.machines.length) :
    (rig.step ⟨self, .count⟩).answer = .count (rig.registered self) := by
  have hm := List.getElem?_eq_getElem hself
  rw [step_of_machine hm, registered, hm]
  rfl

end Rig

end Roll

section Run

variable {rig : Rig} {self : Nat}

namespace Rig

theorem logs_cons (rig : Rig) (step : Step) (rest : List Step) :
    rig.logs (step :: rest) = (rig.report step).lines :: (rig.step step).rig.logs rest := rfl

theorem length_logs (rig : Rig) (steps : List Step) :
    (rig.logs steps).length = steps.length := by
  rw [logs, List.length_map, length_run]

/-- The lines of the first steps do not depend on what comes later. -/
theorem take_logs (rig : Rig) (steps : List Step) (n : Nat) :
    (rig.logs steps).take n = rig.logs (steps.take n) := by
  induction steps generalizing rig n with
  | nil => rw [List.take_nil]; exact List.take_nil
  | cons step rest ih =>
    cases n with
    | zero => rfl
    | succ n => rw [logs_cons, List.take_succ_cons, List.take_succ_cons, logs_cons, ih]

theorem logs_get (rig : Rig) (steps : List Step) (position : Nat) :
    (rig.logs steps)[position]? =
      steps[position]?.map fun step => ((rig.after (steps.take position)).report step).lines := by
  induction steps generalizing rig position with
  | nil => rfl
  | cons step rest ih =>
    cases position with
    | zero => rfl
    | succ position => exact ih (rig.step step).rig position

theorem cluesOf_cons (step : Step) (rest : List Step) :
    cluesOf self (step :: rest) (rig.logs (step :: rest)) =
      step.clues self (rig.report step).lines ++
        cluesOf self rest ((rig.step step).rig.logs rest) := rfl

theorem debug_step (hdebug : Level.debug.passes rig.filter = true) (step : Step) :
    Level.debug.passes (rig.step step).rig.filter = true := by
  rw [step_filter, hdebug]

variable (hdebug : Level.debug.passes rig.filter = true)

include hdebug in
/-- A roll that has the numbers of a machine keeps having them if it heeds all clues. -/
theorem mirrors_after {roll : Roll} (h : roll.Mirrors rig self)
    (hself : self < rig.machines.length) (steps : List Step) :
    (roll.heedAll (cluesOf self steps (rig.logs steps))).Mirrors (rig.after steps) self := by
  induction steps generalizing rig roll with
  | nil => exact h
  | cons step rest ih =>
    rw [cluesOf_cons, Roll.heedAll, List.foldl_append, after_cons]
    exact ih (debug_step hdebug step) (h.after_step hdebug hself)
      ((rig.step_lengths step).1 ▸ hself)

include hdebug in
theorem registered_after (hself : self < rig.machines.length) (steps : List Step) :
    (rig.after steps).registered self + rig.removals self steps =
      rig.registered self + (cluesOf self steps (rig.logs steps)).countP Clue.fresh := by
  induction steps generalizing rig with
  | nil => rfl
  | cons step rest ih =>
    -- the count of this step and that of the rest share the rig in between
    have hstep := @registered_step rig self step hdebug hself
    have hrest := ih (debug_step hdebug step) ((rig.step_lengths step).1 ▸ hself)
    rw [cluesOf_cons, List.countP_append, after_cons, removals]
    omega

end Rig

/-- The numbers of a machine that starts without any are those that are rebuilt. -/
theorem Roll.rebuild_eq {start : Rig} (hempty : ∀ number, start.lookup self number = none)
    (hdebug : Level.debug.passes start.filter = true) (hself : self < start.machines.length)
    (steps : List Step) :
    rebuild (cluesOf self steps (start.logs steps)) = (start.after steps).numbers self := by
  have hstart : Roll.Mirrors .empty start self := by
    intro number
    rw [hempty]
    rfl
  have hafter := Rig.mirrors_after hdebug hstart hself steps
  have hlength := (start.after_lengths steps).1
  have hm := List.getElem?_eq_getElem (hlength ▸ hself)
  rw [rebuild, Rig.numbers, hm]
  apply SortedMap.keys_eq_of_isSome
  intro number
  rw [hafter number, Rig.lookup_of_machine hm]

end Run

section Sessions

variable {session : Session} {start : Rig} (hstart : session.rig = .ok start)

include hstart in
theorem Session.lookup_start (self : Nat) (number : CallNumber) :
    start.lookup self number = none := by
  rw [Rig.lookup_eq]
  cases hm : start.machines[self]? with
  | none => rfl
  | some machine =>
    obtain ⟨platform, board, rfl⟩ := session.machine_fresh hstart hm
    rfl

include hstart in
theorem Session.registered_start (self : Nat) : start.registered self = 0 := by
  rw [Rig.registered_eq, List.length_eq_zero_iff, List.eq_nil_iff_forall_not_mem]
  intro number hmem
  rw [Rig.mem_numbers, session.lookup_start hstart] at hmem
  cases hmem

include hstart in
theorem Session.filter_start : start.filter = session.filter := by
  cases hb : session.machines.mapM Assembly.build with
  | error error =>
    rw [rig, hb] at hstart
    cases hstart
  | ok machines =>
    rw [rig, hb] at hstart
    cases hstart
    rfl

include hstart in
theorem Session.shown_logs {filter : Filter} (hfilter : session.filter = some filter) :
    session.shown.map (·.map Shown.log) = .ok ((start.logs session.steps).map some) := by
  have hrun : session.run = .ok (start.run session.steps) := by
    rw [run, hstart]
    rfl
  rw [shown_map, hrun, hfilter, Rig.logs, List.map_map]
  rfl

end Sessions

/-- A session that shows debugging shows each installation in a registry by one line, and nothing
else by such a line. As a step puts entries under numbers, each under another one, it writes a line
for each of them in turn, which tells the number in four digits and whether the number was taken
before. Under every other number its machine keeps what it has, unless the step is one that takes
entries out. Up to any step, the numbers of a machine are those that can be rebuilt from these lines
and from its unregistrations and clearings alone, and their count is the number of lines that tell
of a free number, less the number of entries that the unregistrations and clearings took out. -/
theorem registry_told_by_log {session : Session} {start : Rig} (hstart : session.rig = .ok start)
    {level : Level} (hlevel : level = .debug ∨ level = .trace)
    (hfilter : session.filter = some (.upTo level)) :
    ∃ logs : List (List String),
      session.shown.map (·.map Shown.log) = .ok (logs.map some) ∧
      logs.length = session.steps.length ∧
      (∀ number, (Hex.fourDigits number).length = 4 ∧
        (∀ c ∈ Hex.fourDigits number, c ∈ "0123456789abcdef".toList) ∧
        Numeral.digits 0 (Hex.fourDigits number) = .ok number.toNat) ∧
      (∀ position step log, session.steps[position]? = some step → logs[position]? = some log →
        let rig := start.after (session.steps.take position)
        ∃ numbers : List CallNumber, numbers.Nodup ∧
          (∀ number, number ∈ numbers ↔ step.machine < start.machines.length ∧
            ∃ entry, Installs rig step step.machine number entry) ∧
          (∀ number ∉ numbers, ¬ Removes step step.machine number →
            (rig.step step).rig.lookup step.machine number = rig.lookup step.machine number) ∧
          log.filter Filing.announces = numbers.map fun number =>
            Filing.line ⟨number, (rig.lookup step.machine number).isSome⟩) ∧
      ∀ n self, self < start.machines.length →
        let steps := session.steps.take n
        let clues := cluesOf self steps (logs.take n)
        let reply (request : Request) := ((start.after steps).step ⟨self, request⟩).answer
        reply .numbers = .numbers (Roll.rebuild clues) ∧
        ∃ count, reply .count = .count count ∧
          count + start.removals self steps = clues.countP Clue.fresh := by
  have hdebug : Level.debug.passes start.filter = true := by
    rw [session.filter_start hstart, hfilter]
    rcases hlevel with rfl | rfl <;> rfl
  refine ⟨start.logs session.steps, session.shown_logs hstart hfilter,
    start.length_logs _, fun number => ⟨(Hex.fourDigits_lower number).1,
      (Hex.fourDigits_lower number).2, Source.digits_fourDigits number⟩, ?_, ?_⟩
  · intro position step log hstep hlog rig
    rw [Rig.logs_get, hstep, Option.map_some, Option.some.injEq] at hlog
    refine ⟨rig.files step, rig.nodup_files step, fun number => ?_,
      fun number => Rig.lookup_of_not_mem_files, ?_⟩
    · rw [Rig.mem_files_iff, (start.after_lengths _).1]
    · have hsame : rig.filter = start.filter := start.after_filter _
      rw [← hlog, Rig.announced_report (hsame ▸ hdebug)]
      rfl
  · intro n self hself steps clues reply
    have hlater : self < (start.after steps).machines.length := by
      rw [(start.after_lengths steps).1]
      exact hself
    have hclues : clues = cluesOf self steps (start.logs steps) := by
      rw [← Rig.take_logs]
    have hcount := Rig.registered_after hdebug hself steps
    rw [session.registered_start hstart, Nat.zero_add] at hcount
    refine ⟨?_, (start.after steps).registered self, Rig.step_count hlater, ?_⟩
    · rw [hclues, Roll.rebuild_eq (session.lookup_start hstart self) hdebug hself]
      exact Rig.step_numbers hlater
    · rw [hclues, hcount]

/-- A runtime gets the LED handlers of another machine. One of them is replaced, copied there, taken
out twice and put back; in the end all are taken out and one is put back. -/
def churnedSession : Session where
  filter := some (.upTo .debug)
  banks := []
  machines := [.runtime 7, .parts none]
  steps := [⟨0, .registerLed 1⟩, ⟨0, .registerRoutine .ledOn .first⟩, ⟨0, .register 7 none⟩,
    ⟨1, .copy 7 8 0⟩, ⟨1, .copy .ledOn 0x1abc 0⟩, ⟨0, .unregister .ledOn⟩, ⟨0, .unregister .ledOn⟩,
    ⟨0, .registerRoutine .ledOn .sum⟩, ⟨0, .clear⟩, ⟨0, .register .ledOn (some .sum)⟩]

def churnedRig : Rig := ⟨[{ platform := some 7 }, {}], [], some (.upTo .debug)⟩

def churnedLogs : List (List String) :=
  [["DEBUG Registering LED SYS handlers...", "DEBUG Registered SYS handler 0x0100.",
      "DEBUG Registered SYS handler 0x0101.", "DEBUG Registered SYS handler 0x0102.",
      "DEBUG Registered SYS handler 0x0103.", "DEBUG Registered SYS handler 0x0110."],
    ["DEBUG Replaced SYS handler 0x0100."], [], [], ["DEBUG Registered SYS handler 0x1abc."], [],
    [], ["DEBUG Registered SYS handler 0x0100."], [], ["DEBUG Registered SYS handler 0x0100."]]

/-- After seven steps, four of the numbers are left; after all, seven lines tell of a free number
and six entries were taken out. -/
theorem registry_told_by_log_churned :
    let steps := churnedSession.steps
    let clues := cluesOf 0 (steps.take 7) (churnedLogs.take 7)
    churnedSession.shown.map (·.map Shown.log) = .ok (churnedLogs.map some) ∧
    ((churnedRig.after (steps.take 7)).step ⟨0, .numbers⟩).answer =
      .numbers (Roll.rebuild clues) ∧
    Roll.rebuild clues = [0x0101, 0x0102, 0x0103, 0x0110] ∧
    churnedRig.removals 0 steps = 6 ∧ (cluesOf 0 steps churnedLogs).countP Clue.fresh = 7 ∧
    ((churnedRig.after steps).step ⟨0, .count⟩).answer = .count 1 := by
  intro steps clues
  obtain ⟨logs, hshown, -, -, -, hrun⟩ :=
    @registry_told_by_log churnedSession churnedRig rfl .debug (.inl rfl) rfl
  have hlogs : churnedSession.shown.map (·.map Shown.log) = .ok (churnedLogs.map some) := by rfl
  obtain rfl : logs = churnedLogs := by
    have hsame := Except.ok.inj (hshown.symm.trans hlogs)
    exact List.map_injective_iff.2 (fun _ _ => Option.some.inj) hsame
  obtain ⟨hnumbers, -⟩ := hrun 7 0 (by decide)
  obtain ⟨-, count, hcount, htotal⟩ := hrun 10 0 (by decide)
  have hremoved : churnedRig.removals 0 steps = 6 := by decide
  have hfresh : (cluesOf 0 steps churnedLogs).countP Clue.fresh = 7 := by decide
  obtain rfl : count = 1 := by
    have hsum : count + churnedRig.removals 0 steps =
      (cluesOf 0 steps churnedLogs).countP Clue.fresh := htotal
    omega
  exact ⟨hlogs, hnumbers, by decide, hremoved, hfresh, hcount⟩

end Switchboard
