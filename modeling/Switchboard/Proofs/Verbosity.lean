import Mathlib.Data.List.Basic
import Switchboard.Proofs.Split

/-!
# What a filter decides

A session has one filter or none, and at the place where a notice is made the filter decides whether
it is written. Nothing else depends on it: on rigs that differ in their filter alone a step has the
same answer, asks the banks the same and leaves rigs that differ in their filter alone. If one
filter lets through all that the other one does, the step writes under the narrow one what it writes
under the wide one without the notices that the narrow one keeps back, at the same points between
the calls. Runs and sessions inherit this from their steps. A line begins with its level, so the log
of a narrow session can be read off that of a wide one.
-/
namespace Switchboard

/-- An effect that is there under a filter. Calls to banks are there under any. -/
def Effect.passes (filter : Option Filter) : Effect → Bool
  | .pin _ _ => true
  | .notice noted => noted.level.passes filter

/-- The same rig under another filter, or without one. -/
def Rig.under (rig : Rig) (filter : Option Filter) : Rig := { rig with filter := filter }

/-- All that the filter lets through is written on the rig anyway. -/
def Rig.Covers (rig : Rig) (filter : Option Filter) : Prop :=
  ∀ level : Level, level.passes filter = true → level.passes rig.filter = true

/-- The turn as it goes under a filter that lets no more through. -/
def Turn.under {α : Type} (turn : Turn α) (filter : Option Filter) : Turn α :=
  ⟨turn.rig.under filter, turn.answer, turn.effects.filter (Effect.passes filter)⟩

/-- The report as it is under a filter that lets no more through. -/
def Report.under (report : Report) (filter : Option Filter) : Report :=
  { report with effects := report.effects.filter (Effect.passes filter) }

/-- The same session with another filter, or with none. -/
def Session.under (session : Session) (filter : Option Filter) : Session :=
  { session with filter := filter }

/-- What a session shows of one step. -/
structure Shown where
  reply : Reply
  count : Nat
  calls : List (Nat × PinCall)
  /-- The lines that the step wrote, if the session has a filter. -/
  log : Option (List String)
  deriving DecidableEq

def Report.shown (filter : Option Filter) (report : Report) : Shown :=
  ⟨report.reply, report.count, report.calls, filter.map fun _ => report.lines⟩

def Session.shown (session : Session) : Except ImageError (List Shown) :=
  session.run.map (·.map (Report.shown session.filter))

namespace Level

def all : List Level := [error, warn, info, debug, trace]

/-- The level that a line begins with. -/
def ofLine? (line : String) : Option Level :=
  all.find? fun level => (level.name ++ " ").toList.isPrefixOf line.toList

end Level

namespace Filter

/-- The filter lets the level of this line through. -/
def shows (filter : Filter) (line : String) : Bool := (Level.ofLine? line).any filter.admits

/-- All that the first filter lets through, the second one lets through. -/
def Within (narrow wide : Filter) : Prop :=
  ∀ level, narrow.admits level = true → wide.admits level = true

end Filter

namespace Shown

/-- All but the lines. -/
def outcome (shown : Shown) : Reply × Nat × List (Nat × PinCall) :=
  (shown.reply, shown.count, shown.calls)

/-- The same with those lines only that a filter lets through. -/
def keep (filter : Filter) (shown : Shown) : Shown :=
  { shown with log := shown.log.map (·.filter filter.shows) }

end Shown

/-- No text can make a line appear to be of another level. -/
theorem Level.ofLine?_line (notice : Notice) : ofLine? notice.line = some notice.level := by
  have hline : notice.line.toList = (notice.level.name ++ " ").toList ++ notice.text.toList :=
    String.toList_append
  unfold ofLine?
  rw [hline]
  cases notice.level <;> rfl

theorem Level.rank_le (level : Level) : level.rank ≤ Level.trace.rank := by
  cases level <;> decide

/-- Nothing is less severe than a trace. -/
theorem Level.passes_trace (level : Level) : level.passes (some (.upTo .trace)) = true :=
  decide_eq_true level.rank_le

namespace Filter

theorem shows_line (filter : Filter) (notice : Notice) :
    filter.shows notice.line = filter.admits notice.level := by
  rw [shows, Level.ofLine?_line, Option.any_some]

theorem off_shows (line : String) : ¬ off.shows line = true := by
  unfold shows
  cases Level.ofLine? line <;> exact Bool.false_ne_true

theorem upTo_within_iff (one other : Level) :
    (upTo one).Within (upTo other) ↔ one.rank ≤ other.rank := by
  constructor
  · intro h
    have hsame : (upTo one).admits one = true := decide_eq_true (Nat.le_refl _)
    exact of_decide_eq_true (h one hsame)
  · intro hle level h
    exact decide_eq_true (Nat.le_trans (of_decide_eq_true h) hle)

theorem off_within (filter : Filter) : off.Within filter := by
  intro level h
  cases h

theorem within_trace (filter : Filter) : filter.Within (upTo .trace) :=
  fun level _ => level.passes_trace

end Filter

namespace Rig

section Under

variable {rig : Rig} {filter : Option Filter}

theorem Covers.congr (h : rig.Covers filter) {other : Rig} (hfilter : other.filter = rig.filter) :
    other.Covers filter := by
  rw [Covers, hfilter]
  exact h

theorem write_under (h : rig.Covers filter) (noted : List Notice) :
    (rig.under filter).write noted = (rig.write noted).filter (Effect.passes filter) := by
  have hnotices : noted.filter (fun notice => notice.level.passes filter) =
      (noted.filter fun notice => notice.level.passes rig.filter).filter
        (Effect.passes filter ∘ Effect.notice) := by
    rw [List.filter_filter]
    apply List.filter_congr
    intro notice _
    show _ = (notice.level.passes filter && notice.level.passes rig.filter)
    cases hpasses : notice.level.passes filter with
    | false => rfl
    | true => rw [h _ hpasses, Bool.and_self]
  rw [write, write, List.filter_map, ← hnotices]
  rfl

theorem finish_under {α β : Type} {turn : Turn α} (h : turn.rig.Covers filter) (form : α → β)
    (noted : α → List Notice) :
    (turn.under filter).finish form noted = (turn.finish form noted).under filter := by
  have heffects : (turn.finish form noted).effects.filter (Effect.passes filter) =
      turn.effects.filter (Effect.passes filter) ++
        (turn.rig.under filter).write (noted turn.answer) := by
    rw [write_under h]
    exact List.filter_append ..
  show _ = Turn.mk _ _ ((turn.finish form noted).effects.filter (Effect.passes filter))
  rw [heffects]
  rfl

theorem update_under (h : rig.Covers filter) (self : Nat) (change : Machine × List Notice)
    (reply : Reply) :
    (rig.under filter).update self change reply = (rig.update self change reply).under filter := by
  rw [update, write_under h]
  rfl

/-- A command writes nothing. -/
theorem led_under (rig : Rig) (filter : Option Filter) (owner : Nat) (command : Led.Command) :
    (rig.under filter).led owner command = (rig.led owner command).under filter := by
  have hmachines : (rig.under filter).machines = rig.machines := rfl
  have hbank : ∀ machine, (rig.under filter).bankOf? machine = rig.bankOf? machine := fun _ => rfl
  unfold led
  rw [hmachines]
  cases rig.machines[owner]? with
  | none => rfl
  | some machine =>
    simp only [hbank]
    cases rig.bankOf? machine with
    | none => rfl
    | some found =>
      simp only
      cases command.perform found.2 machine.devices with
      | error error => rfl
      | ok motion =>
        have hasked : (motion.calls.map (Effect.pin found.1)).filter (Effect.passes filter) =
            motion.calls.map (.pin found.1) := by
          apply List.filter_eq_self.2
          intro effect heffect
          obtain ⟨call, -, rfl⟩ := List.mem_map.1 heffect
          rfl
        simp only [Turn.under, hasked]
        rfl

theorem tally_under (rig : Rig) (filter : Option Filter) (origin : Origin) :
    (rig.under filter).tally origin = (rig.tally origin).under filter := by
  have hmachines : (rig.under filter).machines = rig.machines := rfl
  unfold tally
  rw [hmachines]
  cases rig.machines[origin.machine]? <;> rfl

theorem dispatch_under (h : rig.Covers filter) (entry : Entry) (number : CallNumber)
    (arguments : Arguments) :
    (rig.under filter).dispatch entry number arguments =
      (rig.dispatch entry number arguments).under filter := by
  obtain ⟨origin, handler⟩ := entry
  cases handler with
  | led operation owner =>
    have hled := h.congr (Split.touches_led (Split.undivided_parts rig) rfl
      (operation.command arguments) : Split.undivided.Touches true rig (rig.led owner _).rig).filter
    simp only [dispatch, ledCall_eq, led_under]
    exact finish_under hled _ _
  | custom routine =>
    cases routine with
    | counter =>
      simp only [dispatch, tally_under]
      rfl
    | _ => rfl
  | _ => rfl

theorem tryInvoke_under (h : rig.Covers filter) (machine : Nat) (number : CallNumber)
    (arguments : Arguments) :
    (rig.under filter).tryInvoke machine number arguments =
      (rig.tryInvoke machine number arguments).under filter := by
  have hlookup : (rig.under filter).lookup = rig.lookup := rfl
  unfold tryInvoke
  rw [hlookup]
  cases rig.lookup machine number with
  | none => rfl
  | some entry =>
    simp only [dispatch_under h]
    rfl

/-- The filter decides what a step writes, and nothing else. -/
theorem step_under (h : rig.Covers filter) (step : Step) :
    (rig.under filter).step step = (rig.step step).under filter := by
  obtain ⟨self, request⟩ := step
  cases hm : rig.machines[self]? with
  | none =>
    have hmissing : (rig.under filter).machines[self]? = none := hm
    rw [step_of_missing hm, step_of_missing hmissing]
    rfl
  | some machine =>
    have hmachine : (rig.under filter).machines[self]? = some machine := hm
    have hmachines : (rig.under filter).machines = rig.machines := rfl
    have hbanks : (rig.under filter).banks = rig.banks := rfl
    have hlookup : (rig.under filter).lookup = rig.lookup := rfl
    have hupdate := update_under h self
    have hcall : ∀ number arguments,
        (rig.tryInvoke self number arguments).rig.Covers filter := fun number arguments =>
      h.congr (Split.touches_tryInvoke (Split.undivided_parts rig) rfl number arguments :
        Split.undivided.Touches true rig (rig.tryInvoke self _ _).rig).filter
    rw [step_of_machine hm, step_of_machine hmachine]
    cases request with
    | setBoard image =>
      simp only [serve, setBoard]
      split
      · rfl
      · rw [hupdate]
    | setBank bank =>
      simp only [serve, hbanks]
      split
      · rw [hupdate]
      · rfl
    | registerStandard =>
      simp only [serve]
      split
      · rfl
      · rw [hupdate]
    | registerLed source =>
      simp only [serve, hmachines]
      split
      · rw [hupdate]
      · rfl
    | registerCapability source platform =>
      simp only [serve, hmachines]
      split
      · rw [hupdate]
      · rfl
    | invoke number arguments =>
      simp only [serve, invoke_eq, tryInvoke_under h, finish_under (hcall number arguments)]
      rfl
    | tryInvoke number arguments =>
      simp only [serve, tryCall_eq, tryInvoke_under h, finish_under (hcall number arguments)]
    | register number routine =>
      cases routine with
      | none => rfl
      | some routine => exact hupdate _ _
    | registerRoutine number routine => exact hupdate _ _
    | copy number target source =>
      simp only [serve, copy, hmachines, hlookup]
      split
      · split
        · rfl
        · rw [hupdate]
      · rfl
    | same number target source =>
      simp only [serve, same, hmachines, hlookup]
      split <;> rfl
    | unregister number => exact hupdate _ _
    | clear => exact hupdate _ _
    | platform =>
      simp only [serve]
      split <;> rfl
    | led command =>
      have hled := h.congr (Split.touches_led (Split.undivided_parts rig) rfl command :
        Split.undivided.Touches true rig (rig.led self command).rig).filter
      simp only [serve, ledCommand_eq, led_under, finish_under hled]
    | levels bank =>
      simp only [serve, hbanks]
      split <;> rfl
    | drive bank handle level =>
      simp only [serve, hbanks]
      split <;> rfl
    | _ => rfl

/-- The filter decides what a run writes, and nothing else. -/
theorem run_under (h : rig.Covers filter) (steps : List Step) :
    (rig.under filter).run steps = (rig.run steps).map (·.under filter) := by
  induction steps generalizing rig with
  | nil => rfl
  | cons step rest ih =>
    have hrest := ih (h.congr (rig.step_filter step))
    rw [run, run, step_under h, List.map_cons, ← hrest]
    rfl

/-- The rigs that the steps leave behind differ in their filter alone. -/
theorem after_under (h : rig.Covers filter) (steps : List Step) :
    (rig.under filter).after steps = (rig.after steps).under filter := by
  induction steps generalizing rig with
  | nil => rfl
  | cons step rest ih =>
    rw [after_cons, after_cons, step_under h]
    exact ih (h.congr (rig.step_filter step))

end Under

end Rig

namespace Report

theorem calls_under (report : Report) (filter : Option Filter) :
    (report.under filter).calls = report.calls := by
  rw [calls, calls, under, List.filterMap_filter]
  apply List.filterMap_congr
  intro effect _
  cases effect with
  | pin bank call => rfl
  | notice noted => exact ite_self _

theorem lines_under (report : Report) (filter : Filter) :
    (report.under (some filter)).lines = report.log filter := by
  have hnotices : (report.under (some filter)).notices =
      report.notices.filter fun notice => filter.admits notice.level := by
    rw [notices, notices, under, List.filterMap_filter, List.filter_filterMap]
    apply List.filterMap_congr
    intro effect _
    cases effect with
    | pin bank call => rfl
    | notice noted => rfl
  rw [lines, hnotices]
  rfl

/-- A filter goes by the lines alone. -/
theorem log_eq (report : Report) (filter : Filter) :
    report.log filter = report.lines.filter filter.shows := by
  have hlevel : filter.shows ∘ Notice.line = fun notice => filter.admits notice.level :=
    funext fun notice => filter.shows_line notice
  rw [lines, List.filter_map, hlevel]
  rfl

theorem outcome_under (report : Report) (filter wide : Option Filter) :
    ((report.under filter).shown filter).outcome = (report.shown wide).outcome := by
  show ((report.under filter).reply, (report.under filter).count, (report.under filter).calls) = _
  rw [calls_under]
  rfl

/-- What is shown of a step under a narrow filter can be read off what is shown under a wide one. -/
theorem shown_under (report : Report) (narrow wide : Filter) :
    (report.under (some narrow)).shown (some narrow) =
      Shown.keep narrow (report.shown (some wide)) := by
  show Shown.mk _ _ (report.under (some narrow)).calls (some (report.under (some narrow)).lines) = _
  rw [calls_under, lines_under, log_eq]
  rfl

end Report

namespace Session

theorem map_map_each {ε α β γ : Type} (run : Except ε (List α)) (first : α → β) (second : β → γ) :
    (run.map (·.map first)).map (·.map second) = run.map (·.map (second ∘ first)) := by
  cases run with
  | error error => rfl
  | ok items => exact congrArg Except.ok List.map_map

theorem shown_map {α : Type} (session : Session) (view : Shown → α) :
    session.shown.map (·.map view) =
      session.run.map (·.map (view ∘ Report.shown session.filter)) :=
  map_map_each _ _ _

theorem rig_under (body : Session) (filter : Option Filter) :
    (body.under filter).rig = body.rig.map (·.under filter) := by
  have hmachines : (body.under filter).machines = body.machines := rfl
  unfold rig
  rw [hmachines]
  cases body.machines.mapM Assembly.build <;> rfl

/-- The filter decides what a session writes, and nothing else. -/
theorem run_under (body : Session) {narrow wide : Option Filter}
    (h : ∀ level : Level, level.passes narrow = true → level.passes wide = true) :
    (body.under narrow).run = (body.under wide).run.map (·.map (·.under narrow)) := by
  unfold run
  rw [rig_under, rig_under]
  cases body.rig with
  | error error => rfl
  | ok start =>
    have hcovers : (start.under wide).Covers narrow := h
    exact congrArg Except.ok (Rig.run_under hcovers body.steps)

/-- What a session shows can be read off the reports of a wider one. -/
theorem shown_eq (body : Session) {narrow wide : Option Filter}
    (h : ∀ level : Level, level.passes narrow = true → level.passes wide = true) :
    (body.under narrow).shown =
      (body.under wide).run.map (·.map fun report => (report.under narrow).shown narrow) := by
  rw [shown, body.run_under h, map_map_each]
  rfl

theorem outcome_under (body : Session) (filter : Option Filter) :
    (body.under filter).shown.map (·.map Shown.outcome) =
      (body.under (some (.upTo .trace))).shown.map (·.map Shown.outcome) := by
  have houtcome : (Shown.outcome ∘ fun report => (report.under filter).shown filter) =
      Shown.outcome ∘ Report.shown (some (.upTo .trace)) :=
    funext fun report => report.outcome_under filter _
  rw [body.shown_eq fun level _ => level.passes_trace, map_map_each, houtcome, shown_map]
  rfl

theorem shown_of_within (body : Session) {narrow wide : Filter} (h : narrow.Within wide) :
    (body.under (some narrow)).shown =
      (body.under (some wide)).shown.map (·.map (Shown.keep narrow)) := by
  have hkeep : (fun report => (report.under (some narrow)).shown (some narrow)) =
      Shown.keep narrow ∘ Report.shown (some wide) :=
    funext fun report => report.shown_under narrow wide
  have hpasses : ∀ level : Level,
      level.passes (some narrow) = true → level.passes (some wide) = true := h
  rw [body.shown_eq hpasses, hkeep, shown_map]
  rfl

/-- With off, no line is left. -/
theorem shown_off (body : Session) :
    (body.under (some .off)).shown = (body.under (some (.upTo .trace))).shown.map
      (·.map fun shown => { shown with log := some [] }) := by
  have hlog : Shown.keep .off ∘ Report.shown (some (.upTo .trace)) =
      (fun shown => { shown with log := some [] }) ∘ Report.shown (some (.upTo .trace)) := by
    funext report
    have hnone : report.lines.filter Filter.off.shows = [] :=
      List.filter_eq_nil_iff.2 fun line _ => Filter.off_shows line
    show Shown.mk _ _ _ (some (report.lines.filter Filter.off.shows)) = _
    rw [hnone]
    rfl
  rw [body.shown_of_within (Filter.off_within (.upTo .trace)), shown_map, shown_map]
  exact congrArg (fun view => (body.under (some (.upTo .trace))).run.map (·.map view)) hlog

/-- A session writes no line that its own filter would keep back. -/
theorem log_of_run (body : Session) {filter : Filter} {reports : List Report}
    (h : (body.under (some filter)).run = .ok reports) {report : Report} (hmem : report ∈ reports) :
    report.log filter = report.lines := by
  have hself : reports.map (·.under (some filter)) = reports := by
    have hrun := @body.run_under (some filter) (some filter) fun _ => id
    rw [h] at hrun
    exact (Except.ok.inj hrun).symm
  rw [← hself] at hmem
  obtain ⟨wide, -, rfl⟩ := List.mem_map.1 hmem
  rw [Report.log_eq, Report.lines_under, Report.log_eq, List.filter_filter]
  simp only [Bool.and_self]

end Session

/-- A session body may be run with any filter, or without one. Every step has the same reply, leaves
as many entries and asks the banks the same. The lines that a step shows under a filter are those
that it shows down to traces, in the same order and word for word, without the ones of a level that
the filter keeps back; off lets nothing through. The same holds of any two filters of which one is
within the other, and filters are within each other as their levels are. What is written under a
filter stands at the same points between the calls to banks. -/
theorem filters_only_choose_lines (body : Session) :
    let under (filter : Option Filter) := (body.under filter).shown
    let traced : Option Filter := some (.upTo .trace)
    (∀ one other : Option Filter,
      (under one).map (·.map Shown.outcome) = (under other).map (·.map Shown.outcome)) ∧
    (∀ filter : Filter,
      under (some filter) = (under traced).map (·.map (Shown.keep filter))) ∧
    (under (some .off) = (under traced).map (·.map fun shown => { shown with log := some [] })) ∧
    (∀ narrow wide : Filter, narrow.Within wide →
      under (some narrow) = (under (some wide)).map (·.map (Shown.keep narrow))) ∧
    (∀ one other : Level, (Filter.upTo one).Within (.upTo other) ↔ one.rank ≤ other.rank) ∧
    (∀ filter, Filter.off.Within filter) ∧
    ∀ filter, (body.under filter).run = (body.under traced).run.map (·.map (·.under filter)) := by
  intro under traced
  refine ⟨fun one other => ?_, fun filter => ?_, body.shown_off, fun narrow wide => ?_,
    Filter.upTo_within_iff, Filter.off_within, fun filter => ?_⟩
  · exact (body.outcome_under one).trans (body.outcome_under other).symm
  · exact body.shown_of_within filter.within_trace
  · exact body.shown_of_within
  · exact body.run_under fun level _ => level.passes_trace

/-- Setting up and a call that nobody answers. -/
def wordySession : Session where
  filter := none
  banks := [.sound]
  machines := [.parts none]
  steps := [⟨0, .setBank (some 0)⟩, ⟨0, .setBoard none⟩, ⟨0, .registerRoutine 7 .first⟩,
    ⟨0, .invoke 8 ⟨1, 2, 3⟩⟩]

/-- What is shown of debugging is what is shown of everything without the traces. -/
theorem filters_only_choose_lines_debug :
    let under (filter : Option Filter) := (wordySession.under filter).shown
    (under (some (.upTo .trace))).map (·.map Shown.log) =
        .ok [some ["DEBUG LED HAL installed."], some ["TRACE DDT provider cleared."],
          some ["DEBUG Registered SYS handler 0x0007."],
          some ["TRACE SYS 0x0008: no handler registered."]] ∧
      (under (some (.upTo .debug))).map (·.map Shown.log) =
        .ok [some ["DEBUG LED HAL installed."], some [],
          some ["DEBUG Registered SYS handler 0x0007."], some []] ∧
      under (some (.upTo .debug)) =
        (under (some (.upTo .trace))).map (·.map (Shown.keep (.upTo .debug))) ∧
      (under none).map (·.map Shown.outcome) =
        (under (some (.upTo .debug))).map (·.map Shown.outcome) := by
  intro under
  obtain ⟨hsame, -, -, hnested, hwithin, -, -⟩ := filters_only_choose_lines wordySession
  have hlevels : (Filter.upTo .debug).Within (.upTo .trace) :=
    (hwithin .debug .trace).2 (by decide)
  exact ⟨by rfl, by rfl, hnested _ _ hlevels, hsame _ _⟩

end Switchboard
