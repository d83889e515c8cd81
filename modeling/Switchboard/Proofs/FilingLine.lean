import Switchboard.Proofs.Filing
import Switchboard.Proofs.GeneratedTable
import Switchboard.Proofs.Verbosity

/-!
# The line of an installation

Under a filter that lets debugging through, each entry that a step puts into a registry is shown by
one line. The line tells the number and whether it was taken, and can be read back. How it begins
sets it apart from every other line that a step can write.
-/
namespace Switchboard

namespace Filing

/-- How the lines begin that tell of an entry put under a number that was free, or taken. -/
def opening : Bool → String
  | false => "DEBUG Registered SYS handler "
  | true => "DEBUG Replaced SYS handler "

/-- The line that shows a filing. -/
def line (filing : Filing) : String := opening filing.taken ++ Hex.word filing.number ++ "."

/-- The line begins like one that shows a filing of this kind. -/
def opens (taken : Bool) (line : String) : Bool := (opening taken).toList.isPrefixOf line.toList

/-- The line begins like one that shows a filing. -/
def announces (line : String) : Bool := opens false line || opens true line

def readAs? (taken : Bool) (line : String) : Option Filing := do
  let rest ← line.toList.dropPrefix? (opening taken).toList
  let rest ← rest.dropPrefix? "0x".toList
  let number ← (Numeral.digits 0 (rest.take 4)).toOption
  return ⟨UInt16.ofNat number, taken⟩

/-- Reads the line of a filing back. -/
def ofLine? (line : String) : Option Filing := (readAs? false line).or (readAs? true line)

end Filing

theorem Hex.fourDigits_lower (word : UInt16) :
    (fourDigits word).length = 4 ∧ ∀ c ∈ fourDigits word, c ∈ "0123456789abcdef".toList := by
  have hdigit : ∀ d < 16, d.digitChar ∈ "0123456789abcdef".toList := by decide
  refine ⟨rfl, ?_⟩
  intro c hc
  simp only [fourDigits, List.mem_cons, List.not_mem_nil, or_false] at hc
  rcases hc with rfl | rfl | rfl | rfl <;> exact hdigit _ (Nat.mod_lt _ (by decide))

namespace Filing

theorem line_toList (filing : Filing) :
    filing.line.toList =
      (opening filing.taken).toList ++
        ("0x".toList ++ (Hex.fourDigits filing.number ++ ['.'])) := by
  simp only [line, Hex.word, String.toList_append, String.toList_ofList, List.append_assoc]
  rfl

/-- The line as the log puts it together. -/
theorem line_eq (filing : Filing) :
    filing.line = Level.debug.name ++ " " ++
      ((if filing.taken then "Replaced SYS handler " else "Registered SYS handler ") ++
        Hex.word filing.number ++ ".") := by
  have hopening : ∀ taken, opening taken = Level.debug.name ++ " " ++
      (if taken then "Replaced SYS handler " else "Registered SYS handler ") := by decide
  rw [line, hopening]
  simp only [String.append_assoc]

theorem opens_line (filing : Filing) (taken : Bool) :
    opens taken filing.line = (filing.taken == taken) := by
  rw [opens, line_toList]
  cases filing.taken <;> cases taken <;> rfl

theorem announces_line (filing : Filing) : announces filing.line = true := by
  rw [announces, opens_line, opens_line]
  cases filing.taken <;> rfl

theorem readAs?_line (filing : Filing) : readAs? filing.taken filing.line = some filing := by
  have hprefix : ∀ expected rest : List Char, (expected ++ rest).dropPrefix? expected = some rest :=
    fun expected rest => List.dropPrefix?_append_of_beq rest (beq_self_eq_true expected)
  have htake : (Hex.fourDigits filing.number ++ ['.']).take 4 = Hex.fourDigits filing.number := rfl
  simp only [readAs?, line_toList, hprefix, htake, Source.digits_fourDigits, Except.toOption,
    Option.bind_eq_bind, Option.bind_some, Option.pure_def, UInt16.ofNat_toNat]

theorem ofLine?_line (filing : Filing) : ofLine? filing.line = some filing := by
  have hread := filing.readAs?_line
  unfold ofLine?
  cases h : filing.taken with
  | false =>
    rw [h] at hread
    rw [hread, Option.some_or]
  | true =>
    have hother : readAs? false filing.line = none := by
      rw [readAs?, line_toList, h]
      rfl
    rw [h] at hread
    rw [hother, hread, Option.none_or]

end Filing

namespace Notice

theorem line_of_filing? {notice : Notice} {filing : Filing} (h : notice.filing? = some filing) :
    notice.line = filing.line := by
  cases notice with
  | registered number =>
    cases h
    rw [Filing.line_eq, if_neg Bool.false_ne_true]
    rfl
  | replaced number =>
    cases h
    rw [Filing.line_eq, if_pos rfl]
    rfl
  | _ => cases h

theorem opens_line_of_trace {notice : Notice} (h : notice.level = .trace) (taken : Bool) :
    Filing.opens taken notice.line = false := by
  rw [Filing.opens, line, h, String.toList_append]
  generalize notice.text.toList = told
  cases taken <;> rfl

/-- No other line could be taken for one of these. -/
theorem announces_line_of_none {notice : Notice} (h : notice.filing? = none) :
    Filing.announces notice.line = false := by
  cases notice with
  | registered number | replaced number => cases h
  | boardInstalled | boardCleared | callFailed | ledFailed =>
    rw [Filing.announces, opens_line_of_trace rfl, opens_line_of_trace rfl, Bool.or_self]
  | _ => decide

/-- The lines that begin so are those of the filings, in the same order. -/
theorem announced_lines (notices : List Notice) :
    (notices.map line).filter Filing.announces = (notices.filterMap filing?).map Filing.line := by
  induction notices with
  | nil => rfl
  | cons notice rest ih =>
    rw [List.map_cons]
    cases hfiling : notice.filing? with
    | none =>
      have hquiet : ¬ Filing.announces notice.line = true := by
        rw [announces_line_of_none hfiling]
        exact Bool.false_ne_true
      rw [List.filterMap_cons_none hfiling, List.filter_cons_of_neg hquiet, ih]
    | some filing =>
      rw [List.filterMap_cons_some hfiling, line_of_filing? hfiling,
        List.filter_cons_of_pos filing.announces_line, ih, List.map_cons]

end Notice

theorem Report.announced (report : Report) :
    report.lines.filter Filing.announces =
      (report.effects.filterMap Effect.filing?).map Filing.line := by
  rw [lines, Notice.announced_lines, notices, List.filterMap_filterMap]
  rfl

namespace Rig

def report (rig : Rig) (step : Step) : Report :=
  let turn := rig.step step
  ⟨turn.answer, turn.rig.registered step.machine, turn.effects⟩

/-- One line for each entry that a step installs, and no other line like it. -/
theorem announced_report {rig : Rig} (hdebug : Level.debug.passes rig.filter = true)
    (step : Step) :
    (rig.report step).lines.filter Filing.announces =
      (rig.files step).map fun number => (rig.filing step.machine number).line := by
  rw [Report.announced]
  change (rig.step step).filings.map Filing.line = _
  rw [step_filings hdebug, List.map_map]
  rfl

end Rig

end Switchboard
