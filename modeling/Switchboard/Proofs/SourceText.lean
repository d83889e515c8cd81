import Mathlib.Data.List.Basic
import Switchboard.Call.Source
import Switchboard.Proofs.Literal

/-!
# Reading the source text back

The descriptions stand raw in the documentation of the constants, where they may hold line breaks
and look like anything, the table included. The table is found from the end of the text: each of
its entries is one line, because names and literals hold no line break, and none of them is the
line that opens the table. What the entries say determines the names and the descriptions, and with
these the constants are determined up to their numbers, which are of one width.
-/
namespace Switchboard

/-- The name is made of letters, digits and underscores, as the name of a constant is. -/
def Definition.identified (definition : Definition) : Bool :=
  definition.name.toList.all fun c => c.isAlphanum || c == '_'

namespace Source

/-- What an entry of the table says: the constant that it takes its number from, and two texts. -/
structure Row where
  constant : String
  name : String
  description : String
  deriving DecidableEq

/-- What the entry of a definition is to say. -/
def row (definition : Definition) : Row :=
  ⟨definition.name, definition.name, definition.description⟩

/-- Reads an entry. The constant ends at the first comma. -/
def readRow (line : String) : Option Row := do
  let rest ← line.toList.dropPrefix? "    SysIdInfo \x7b id: ".toList
  let constant := rest.takeWhile (· ≠ ',')
  let rest ← (rest.dropWhile (· ≠ ',')).dropPrefix? ", name: ".toList
  let (name, rest) ← Quoted.read rest
  let rest ← rest.dropPrefix? ", description: ".toList
  let (description, rest) ← Quoted.read rest
  if rest = " \x7d,".toList then
    some ⟨String.ofList constant, String.ofList name, String.ofList description⟩
  else none

/-- The line that opens the table. -/
def opening : String := "pub static SYS_ID_TABLE: &[SysIdInfo] = &["

/-- The lines of the table, which stand before the closing line and the empty rest of the text, and
behind the last line that opens a table. -/
def tableLines (text : String) : List String :=
  let lines := (text.toList.splitOn '\n').map String.ofList
  ((lines.reverse.drop 2).takeWhile (· ≠ opening)).reverse

/-- The line of an entry, without its break. -/
def line (definition : Definition) : String :=
  "    SysIdInfo \x7b id: " ++ definition.name ++ ", name: " ++ Quoted.quote definition.name ++
    ", description: " ++ Quoted.quote definition.description ++ " \x7d,"

/-- What stands before the digits of a constant. -/
def lead (row : Row) : String :=
  "/// " ++ row.description ++ "\n" ++ "pub const " ++ row.name ++ ": u16 = 0x"

section Separator

variable {separator : Char} {read : List Char} (h : separator ∉ read)

include h in
theorem takeWhile_of_not_mem (rest : List Char) :
    (read ++ separator :: rest).takeWhile (· ≠ separator) = read := by
  have hread : ∀ c ∈ read, decide (c ≠ separator) = true :=
    fun c hc => decide_eq_true (ne_of_mem_of_not_mem hc h)
  rw [List.takeWhile_append_of_pos hread, List.takeWhile_cons_of_neg (by simp), List.append_nil]

include h in
theorem dropWhile_of_not_mem (rest : List Char) :
    (read ++ separator :: rest).dropWhile (· ≠ separator) = separator :: rest := by
  have hread : ∀ c ∈ read, decide (c ≠ separator) = true :=
    fun c hc => decide_eq_true (ne_of_mem_of_not_mem hc h)
  rw [List.dropWhile_append_of_pos hread, List.dropWhile_cons_of_neg (by simp)]

end Separator

theorem entry_eq (definition : Definition) : entry definition = line definition ++ "\n" := by
  have hend : " \x7d,\n" = " \x7d," ++ "\n" := by decide
  unfold entry line
  rw [hend, ← String.append_assoc]

/-- An entry in the parts that its reader takes off. -/
theorem line_toList (definition : Definition) : (line definition).toList =
    "    SysIdInfo \x7b id: ".toList ++ (definition.name.toList ++ (", name: ".toList ++
      (Quoted.encode definition.name.toList ++ (", description: ".toList ++
        (Quoted.encode definition.description.toList ++ " \x7d,".toList))))) := by
  unfold line Quoted.quote
  simp only [String.toList_append, String.toList_ofList, List.append_assoc]

theorem line_ne_opening (definition : Definition) : line definition ≠ opening := by
  rw [ne_eq, ← String.toList_inj, line_toList]
  simp [opening]

section Identified

variable {definition : Definition} (h : definition.identified = true)

include h in
theorem not_mem_name {c : Char} (hc : (c.isAlphanum || c == '_') = false) :
    c ∉ definition.name.toList := by
  intro hmem
  have hall := List.all_eq_true.1 h c hmem
  rw [hc] at hall
  cases hall

include h in
theorem break_not_mem_line : '\n' ∉ (line definition).toList := by
  have hname : '\n' ∉ definition.name.toList := not_mem_name h (by decide)
  simp [line_toList, hname, Quoted.break_not_mem_encode]

include h in
/-- An entry is read as what it was written for. -/
theorem readRow_line : readRow (line definition) = some (row definition) := by
  have hcomma : ", name: ".toList = ',' :: " name: ".toList := by decide
  have hname : ',' ∉ definition.name.toList := not_mem_name h (by decide)
  have htake : ∀ rest : List Char, (definition.name.toList ++ (", name: ".toList ++ rest)).takeWhile
      (· ≠ ',') = definition.name.toList :=
    fun rest => hcomma ▸ takeWhile_of_not_mem hname _
  have hdrop : ∀ rest : List Char, (definition.name.toList ++ (", name: ".toList ++ rest)).dropWhile
      (· ≠ ',') = ", name: ".toList ++ rest :=
    fun rest => hcomma ▸ dropWhile_of_not_mem hname _
  have hprefix : ∀ expected rest : List Char, (expected ++ rest).dropPrefix? expected = some rest :=
    fun expected rest => List.dropPrefix?_append_of_beq rest (beq_self_eq_true expected)
  simp only [readRow, line_toList, hprefix, htake, hdrop, Quoted.read_encode, Option.bind_eq_bind,
    Option.bind_some, String.ofList_toList, ↓reduceIte, row]

end Identified

/-- The lines of the entries are lines of the text, and no others come between them. -/
theorem splitOn_entries {definitions : List Definition}
    (h : ∀ definition ∈ definitions, definition.identified = true) (rest : List Char) :
    ((definitions.flatMap fun definition => (entry definition).toList) ++ rest).splitOn '\n' =
      definitions.map (fun definition => (line definition).toList) ++ rest.splitOn '\n' := by
  have hbreak : "\n".toList = ['\n'] := by decide
  induction definitions with
  | nil => rfl
  | cons definition others ih =>
    have hline := break_not_mem_line (h definition List.mem_cons_self)
    have hothers := ih fun other hother => h other (List.mem_cons_of_mem _ hother)
    rw [List.flatMap_cons, entry_eq, String.toList_append, hbreak, List.append_assoc,
      List.append_assoc, List.singleton_append, List.splitOn_append_cons_self_of_not_mem hline,
      hothers, List.map_cons, List.cons_append]

/-- The text, as what stands before the opening line of the table, and what comes behind. -/
theorem text_toList (definitions : List Definition) (numbers : List CallNumber) :
    ∃ documented : List Char, (text definitions numbers).toList =
      documented ++ '\n' :: (opening.toList ++ '\n' ::
        ((definitions.flatMap fun definition => (entry definition).toList) ++
          ("];".toList ++ ['\n']))) := by
  have hheading : heading =
      "\n/// Every SYS ID in definition order." ++ "\n" ++ opening ++ "\n" := by decide
  have hclosing : closing = "];" ++ "\n" := by decide
  have hbreak : "\n".toList = ['\n'] := by decide
  refine ⟨(String.join (List.zipWith constant definitions numbers)).toList ++
    "\n/// Every SYS ID in definition order.".toList, ?_⟩
  simp only [text, String.toList_append, hheading, hclosing, hbreak, String.toList_join,
    List.flatMap_map, List.append_assoc, List.cons_append, List.nil_append]

/-- The lines of the table are those of the entries, in order. -/
theorem tableLines_text {definitions : List Definition}
    (h : ∀ definition ∈ definitions, definition.identified = true) (numbers : List CallNumber) :
    tableLines (text definitions numbers) = definitions.map line := by
  obtain ⟨documented, htext⟩ := text_toList definitions numbers
  have hopening : '\n' ∉ opening.toList := by decide
  have hclosing : '\n' ∉ "];".toList := by decide
  have hlines : (text definitions numbers).toList.splitOn '\n' =
      documented.splitOn '\n' ++ opening.toList ::
        (definitions.map (fun definition => (line definition).toList) ++ ["];".toList, []]) := by
    rw [htext, List.splitOn_append_cons_self, List.splitOn_append_cons_self_of_not_mem hopening,
      splitOn_entries h, List.splitOn_append_cons_self_of_not_mem hclosing, List.splitOn_nil]
  have hentries : ∀ read ∈ (definitions.map line).reverse, decide (read ≠ opening) = true := by
    intro read hread
    obtain ⟨definition, -, rfl⟩ := List.mem_map.1 (List.mem_reverse.1 hread)
    exact decide_eq_true (line_ne_opening definition)
  have hdrop : (((text definitions numbers).toList.splitOn '\n').map String.ofList).reverse.drop 2 =
      (definitions.map line).reverse ++
        opening :: ((documented.splitOn '\n').map String.ofList).reverse := by
    simp [hlines, Function.comp_def]
  rw [tableLines, hdrop, List.takeWhile_append_of_pos hentries]
  simp

/-- What is read from the table. -/
theorem rows_text {definitions : List Definition}
    (h : ∀ definition ∈ definitions, definition.identified = true) (numbers : List CallNumber) :
    (tableLines (text definitions numbers)).map readRow = (definitions.map row).map some := by
  rw [tableLines_text h, List.map_map, List.map_map]
  exact List.map_congr_left fun definition hmem => readRow_line (h definition hmem)

theorem digitChar_injOn : ∀ m < 16, ∀ n < 16, Nat.digitChar m = Nat.digitChar n → m = n := by
  decide

/-- The four digits tell the word. -/
theorem fourDigits_injective : Function.Injective Hex.fourDigits := by
  intro one other h
  have hone := one.toNat_lt
  have hother := other.toNat_lt
  have hdigit : ∀ m n, Nat.digitChar (m % 16) = Nat.digitChar (n % 16) → m % 16 = n % 16 :=
    fun m n => digitChar_injOn _ (by omega) _ (by omega)
  simp only [Hex.fourDigits, List.cons.injEq, and_true] at h
  obtain ⟨h3, h2, h1, h0⟩ := h
  have h3 := hdigit _ _ h3
  have h2 := hdigit _ _ h2
  have h1 := hdigit _ _ h1
  have h0 := hdigit _ _ h0
  rw [← UInt16.toNat_inj]
  omega

theorem constant_toList (definition : Definition) (number : CallNumber) :
    (constant definition number).toList =
      (lead (row definition)).toList ++ (Hex.fourDigits number ++ [';', '\n']) := by
  have hequals : ": u16 = 0x".toList = ": u16 = ".toList ++ "0x".toList := by decide
  have hend : ";\n".toList = [';', '\n'] := by decide
  simp only [constant, lead, row, Hex.word, String.toList_append, String.toList_ofList, hequals,
    hend, List.append_assoc]

/-- With equal entries, equal texts of constants have equal numbers: what stands
before the first digits is the same, digits are four, and what is left are the other constants. -/
theorem numbers_of_constants {first second : List Definition} {numbers others : List CallNumber}
    (hrows : first.map row = second.map row) (hnumbers : numbers.length = first.length)
    (hothers : others.length = second.length)
    (h : String.join (List.zipWith constant first numbers) =
      String.join (List.zipWith constant second others)) : numbers = others := by
  induction first generalizing second numbers others with
  | nil =>
    obtain rfl := List.map_eq_nil_iff.1 hrows.symm
    rw [List.length_eq_zero_iff.1 hnumbers, List.length_eq_zero_iff.1 hothers]
  | cons definition first ih =>
    cases second with
    | nil => cases hrows
    | cons other second =>
    cases numbers with
    | nil => cases hnumbers
    | cons number numbers =>
    cases others with
    | nil => cases hothers
    | cons another others =>
    obtain ⟨hsame, hrows⟩ := List.cons.inj hrows
    have htext := congrArg String.toList h
    simp only [List.zipWith_cons_cons, String.join_cons, String.toList_append, constant_toList,
      hsame, List.append_assoc, List.append_cancel_left_eq] at htext
    obtain ⟨hdigits, hrest⟩ := List.append_inj htext rfl
    have hjoin := String.toList_inj.1 (List.append_cancel_left hrest)
    rw [fourDigits_injective hdigits, ih hrows (Nat.succ.inj hnumbers) (Nat.succ.inj hothers) hjoin]

end Source

theorem Definition.judgeAll_length {names : List String} {taken numbers : List CallNumber}
    {definitions : List Definition} (h : judgeAll names taken definitions = .ok numbers) :
    numbers.length = definitions.length := by
  induction definitions generalizing names taken numbers with
  | nil =>
    cases h
    rfl
  | cons definition rest ih =>
    rw [judgeAll] at h
    cases hj : definition.judge names taken with
    | error fault =>
      rw [hj] at h
      cases h
    | ok number =>
      rw [hj] at h
      cases hr : judgeAll (definition.name :: names) (number :: taken) rest with
      | error fault =>
        simp only [bind, Except.bind, hr] at h
        cases h
      | ok others =>
        simp only [bind, Except.bind, hr] at h
        cases h
        rw [List.length_cons, List.length_cons, ih hr]

/-- Sound lists whose names are names of constants have one source text only if they have the same
names, numbers and descriptions in the same order. The table in the text has a line for each
definition, and nothing else; a line is read as the name, twice, and the description. -/
theorem source_determines_definitions {first second : List Definition}
    {numbers others : List CallNumber} (hfirst : Definition.validate first = .ok numbers)
    (hsecond : Definition.validate second = .ok others)
    (hnames : ∀ definition ∈ first, definition.identified = true)
    (hothers : ∀ definition ∈ second, definition.identified = true)
    (htext : Source.text first numbers = Source.text second others) :
    (first.map (·.name) = second.map (·.name) ∧ numbers = others ∧
      first.map (·.description) = second.map (·.description)) ∧
    let lines := Source.tableLines (Source.text first numbers)
    lines.map (· ++ "\n") = first.map Source.entry ∧ (∀ line ∈ lines, '\n' ∉ line.toList) ∧
      lines.map Source.readRow = first.map fun definition =>
        some ⟨definition.name, definition.name, definition.description⟩ := by
  have hlines := Source.tableLines_text hnames numbers
  have hread := Source.rows_text hnames numbers
  have hentries : ∀ definitions : List Definition,
      (definitions.map Source.line).map (· ++ "\n") = definitions.map Source.entry := by
    intro definitions
    rw [List.map_map]
    exact List.map_congr_left fun definition _ => (Source.entry_eq definition).symm
  have hsame : first.map Source.line = second.map Source.line := by
    rw [← hlines, htext, Source.tableLines_text hothers]
  have hrows : first.map Source.row = second.map Source.row := by
    refine List.map_injective_iff.2 (fun _ _ => Option.some.inj) ?_
    rw [← hread, htext, Source.rows_text hothers]
  have hconstants : String.join (List.zipWith Source.constant first numbers) =
      String.join (List.zipWith Source.constant second others) := by
    unfold Source.text at htext
    rw [← hentries, ← hentries, hsame, String.append_left_inj, String.append_left_inj,
      String.append_left_inj] at htext
    exact htext
  have hnumbers := Source.numbers_of_constants hrows (Definition.judgeAll_length hfirst)
    (Definition.judgeAll_length hsecond) hconstants
  refine ⟨⟨?_, hnumbers, ?_⟩, ?_, ?_, ?_⟩
  · have hviews := congrArg (List.map Source.Row.name) hrows
    rw [List.map_map, List.map_map] at hviews
    exact hviews
  · have hviews := congrArg (List.map Source.Row.description) hrows
    rw [List.map_map, List.map_map] at hviews
    exact hviews
  · rw [hlines, hentries]
  · rw [hlines]
    intro line hline
    obtain ⟨definition, hmem, rfl⟩ := List.mem_map.1 hline
    exact Source.break_not_mem_line (hnames definition hmem)
  · rw [hread, List.map_map]
    rfl

/-- Two definitions by the way their numbers are written. The first description looks like the end
of a table and the start of another, the second one is made of characters that need an escape. -/
def misleading (on off : String) : List Definition :=
  [⟨"LED_ON", on, "on\n];\npub static SYS_ID_TABLE: &[SysIdInfo] = &[\n    SysIdInfo \x7b id: A"⟩,
    ⟨"LED_OFF", off, "\" \\ \t\r\n\x00\u0301"⟩]

/-- Numbers written in two ways have one text, and the table in it is found and read. -/
theorem source_determines_definitions_misleading :
    let numbers : List CallNumber := [0x0100, 0x0101]
    let definitions := misleading "0x0100" "0x0101"
    Definition.validate (misleading " 100" "1_01") = .ok numbers ∧
    (Source.tableLines (Source.text definitions numbers)).map Source.readRow =
      definitions.map fun definition =>
        some ⟨definition.name, definition.name, definition.description⟩ := by
  intro numbers definitions
  have hfirst : Definition.validate definitions = .ok numbers := by decide
  have hsecond : Definition.validate (misleading " 100" "1_01") = .ok numbers := by decide
  have htext : Source.text definitions numbers =
      Source.text (misleading " 100" "1_01") numbers := rfl
  have hread := source_determines_definitions hfirst hsecond (by decide) (by decide) htext
  exact ⟨hsecond, hread.2.2.2⟩

end Switchboard
