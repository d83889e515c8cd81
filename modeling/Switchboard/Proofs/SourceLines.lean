import Switchboard.Proofs.SourceText

/-!
# The lines of the source text

A definition has one declaration, but as many lines of documentation as its description has lines:
a description stands raw behind the marker of its documentation, so a break in it ends the line,
and what comes behind the break is a line of its own, without a marker. The table quotes the same
description and spends one line on it. So there is one line of documentation for each definition
only where no description holds a break.
-/
namespace Switchboard

namespace Source

/-- The lines of a text, each of which a break ends. -/
def lines (text : String) : List String :=
  (text.toList.splitOn '\n').dropLast.map String.ofList

/-- The text of some lines. -/
def unlines (lines : List String) : String := String.join (lines.map (· ++ "\n"))

def begins (lead line : String) : Bool := lead.toList.isPrefixOf line.toList

/-- Whether a line begins as the declaration of a constant does. -/
def declares (line : String) : Bool := begins "pub const " line

def declaration (definition : Definition) (number : CallNumber) : String :=
  "pub const " ++ definition.name ++ ": u16 = " ++ Hex.word number ++ ";"

/-- The documentation of a constant, of which the first line has the marker. -/
def documentation (definition : Definition) : List String :=
  (("/// " ++ definition.description).toList.splitOn '\n').map String.ofList

/-- What documents the table. -/
def caption : String := "/// Every SYS ID in definition order."

/-- One line of documentation and one declaration for each definition, and a table with one line for
each. -/
def Regular (definitions : List Definition) (numbers : List CallNumber) (lines : List String) :
    Prop :=
  ∃ documents entries : List String,
    documents.length = definitions.length ∧ documents.all (begins "/// ") = true ∧
    entries.length = definitions.length ∧ entries.all (begins "    SysIdInfo \x7b") = true ∧
    lines = (List.zipWith (fun document declared => [document, declared]) documents
      (List.zipWith declaration definitions numbers)).flatten ++
      ["", caption, opening] ++ entries ++ ["];"]

theorem begins_append (lead rest : String) : begins lead (lead ++ rest) = true := by
  rw [begins, String.toList_append, List.isPrefixOf_iff_prefix]
  exact List.prefix_append _ _

theorem lines_unlines {read : List String} (h : ∀ line ∈ read, '\n' ∉ line.toList) :
    lines (unlines read) = read := by
  have hbreak : "\n".toList = ['\n'] := by decide
  induction read with
  | nil => rfl
  | cons line read ih =>
    have hline := h line List.mem_cons_self
    have hread := ih fun other hother => h other (List.mem_cons_of_mem _ hother)
    rw [unlines, List.map_cons, String.join_cons, lines, String.toList_append, String.toList_append,
      hbreak, List.append_assoc, List.singleton_append,
      List.splitOn_append_cons_self_of_not_mem hline,
      List.dropLast_cons_of_ne_nil (List.splitOn_ne_nil _ _), List.map_cons, String.ofList_toList]
    exact congrArg (line :: ·) hread

theorem unlines_append (first second : List String) :
    unlines (first ++ second) = unlines first ++ unlines second := by
  rw [unlines, List.map_append, String.join_append]
  rfl

theorem unlines_flatten (parts : List (List String)) :
    unlines parts.flatten = String.join (parts.map unlines) := by
  induction parts with
  | nil => rfl
  | cons part parts ih =>
    rw [List.flatten_cons, unlines_append, ih, List.map_cons, String.join_cons]

/-- A break opens a line of its own, and any other character belongs to the first line. -/
theorem splitOn_cons_cases (c : Char) (text : List Char) :
    ∃ head rest, text.splitOn '\n' = head :: rest ∧
      (c = '\n' ∧ (c :: text).splitOn '\n' = [] :: head :: rest ∨
        c ≠ '\n' ∧ (c :: text).splitOn '\n' = (c :: head) :: rest) := by
  obtain ⟨head, rest, hsplit⟩ := List.exists_cons_of_ne_nil (List.splitOn_ne_nil '\n' text)
  refine ⟨head, rest, hsplit, ?_⟩
  rw [List.splitOn_cons_eq_if_modifyHead, hsplit]
  by_cases hc : c = '\n'
  · exact Or.inl ⟨hc, if_pos (beq_iff_eq.2 hc)⟩
  · exact Or.inr ⟨hc, if_neg (mt eq_of_beq hc)⟩

/-- The pieces between the breaks, each with a break behind it, are the text with one more break. -/
theorem flatMap_splitOn (text : List Char) :
    (text.splitOn '\n').flatMap (· ++ ['\n']) = text ++ ['\n'] := by
  induction text with
  | nil => rfl
  | cons c text ih =>
    obtain ⟨head, rest, hsplit, ⟨rfl, hcons⟩ | ⟨-, hcons⟩⟩ := splitOn_cons_cases c text
    · rw [hcons, List.flatMap_cons, ← hsplit, ih]
      rfl
    · rw [hsplit, List.flatMap_cons] at ih
      rw [hcons, List.flatMap_cons, List.cons_append, List.cons_append, List.cons_append, ih]

theorem length_splitOn (text : List Char) :
    (text.splitOn '\n').length = text.count '\n' + 1 := by
  induction text with
  | nil => rfl
  | cons c text ih =>
    obtain ⟨head, rest, hsplit, ⟨rfl, hcons⟩ | ⟨hc, hcons⟩⟩ := splitOn_cons_cases c text
    · rw [hcons, ← hsplit, List.length_cons, ih, List.count_cons_self]
    · rw [hsplit] at ih
      rw [hcons, List.count_cons_of_ne hc, ← ih]
      rfl

theorem break_not_mem_splitOn {text piece : List Char} (h : piece ∈ text.splitOn '\n') :
    '\n' ∉ piece := by
  induction text generalizing piece with
  | nil =>
    obtain rfl := List.mem_singleton.1 h
    exact List.not_mem_nil
  | cons c text ih =>
    obtain ⟨head, rest, hsplit, ⟨-, hcons⟩ | ⟨hc, hcons⟩⟩ := splitOn_cons_cases c text
    · rw [hcons, ← hsplit] at h
      rcases List.mem_cons.1 h with rfl | h
      · exact List.not_mem_nil
      · exact ih h
    · rw [hsplit] at ih
      rw [hcons] at h
      rcases List.mem_cons.1 h with rfl | h
      · exact List.not_mem_cons_of_ne_of_not_mem hc.symm (ih List.mem_cons_self)
      · exact ih (List.mem_cons_of_mem _ h)

theorem unlines_documentation (definition : Definition) :
    unlines (documentation definition) = "/// " ++ definition.description ++ "\n" := by
  have hbreak : "\n".toList = ['\n'] := by decide
  rw [← String.toList_inj, unlines, String.toList_join, String.toList_append, documentation,
    List.map_map, List.flatMap_map, hbreak, ← flatMap_splitOn]
  refine List.flatMap_congr fun piece _ => ?_
  rw [Function.comp_apply, String.toList_append, String.toList_ofList, hbreak]

theorem unlines_constant (definition : Definition) (number : CallNumber) :
    unlines (documentation definition ++ [declaration definition number]) =
      constant definition number := by
  have hend : ";\n" = ";" ++ "\n" := by decide
  have hone : unlines [declaration definition number] = declaration definition number ++ "\n" := by
    simp [unlines, String.join]
  rw [unlines_append, unlines_documentation, hone]
  simp only [constant, declaration, hend, String.append_assoc]

theorem length_documentation (definition : Definition) :
    (documentation definition).length = definition.description.toList.count '\n' + 1 := by
  rw [documentation, List.length_map, length_splitOn, String.toList_append, List.count_append]
  have hmarker : "/// ".toList.count '\n' = 0 := by decide
  rw [hmarker, Nat.zero_add]

theorem documentation_of_unbroken {definition : Definition}
    (h : '\n' ∉ definition.description.toList) :
    documentation definition = ["/// " ++ definition.description] := by
  have hmarker : '\n' ∉ "/// ".toList := by decide
  have hline : '\n' ∉ ("/// " ++ definition.description).toList := by
    rw [String.toList_append, List.mem_append]
    exact fun hmem => hmem.elim hmarker h
  rw [documentation, List.splitOn_eq_singleton hline, List.map_singleton, String.ofList_toList]

/-- The first line of the documentation has the marker. -/
theorem exists_documentation (definition : Definition) : ∃ head rest,
    documentation definition = ("/// " ++ head) :: rest := by
  have hmarker : "/// ".toList = ['/', '/', '/', ' '] := by decide
  obtain ⟨head, rest, hsplit⟩ :=
    List.exists_cons_of_ne_nil (List.splitOn_ne_nil '\n' definition.description.toList)
  refine ⟨String.ofList head, rest.map String.ofList, ?_⟩
  have hlines : ("/// " ++ definition.description).toList.splitOn '\n' =
      ("/// ".toList ++ head) :: rest := by
    simp [String.toList_append, hmarker, List.splitOn_cons_eq_if_modifyHead, hsplit]
  rw [documentation, hlines, List.map_cons, String.ofList_append, String.ofList_toList]

/-- The digits of a word are digits. -/
theorem not_mem_fourDigits {c : Char} (h : ∀ n < 16, c ≠ Nat.digitChar n) (word : CallNumber) :
    c ∉ Hex.fourDigits word := by
  simp only [Hex.fourDigits, List.mem_cons, List.not_mem_nil, or_false, not_or]
  exact ⟨h _ (by omega), h _ (by omega), h _ (by omega), h _ (by omega)⟩

theorem break_not_mem_declaration {definition : Definition} (h : definition.identified = true)
    (number : CallNumber) : '\n' ∉ (declaration definition number).toList := by
  have hname : '\n' ∉ definition.name.toList := not_mem_name h (by decide)
  have hdigits : '\n' ∉ Hex.fourDigits number := not_mem_fourDigits (by decide) number
  simp [declaration, Hex.word, hname, hdigits]

theorem declares_declaration (definition : Definition) (number : CallNumber) :
    declares (declaration definition number) = true := by
  simp only [declares, declaration, String.append_assoc, begins_append]

theorem begins_line (definition : Definition) :
    begins "    SysIdInfo \x7b" (line definition) = true := by
  have hlead : "    SysIdInfo \x7b id: ".toList =
      "    SysIdInfo \x7b".toList ++ " id: ".toList := by decide
  rw [begins, List.isPrefixOf_iff_prefix, line_toList, hlead, List.append_assoc]
  exact List.prefix_append _ _

/-- A line whose first character is another one than that of declarations is none. -/
theorem declares_of_head {line : String} {c : Char} {rest : List Char}
    (h : line.toList = c :: rest) (hc : 'p' ≠ c) : declares line = false := by
  have hlead : "pub const ".toList = 'p' :: "ub const ".toList := by decide
  rw [declares, begins, h, hlead, List.isPrefixOf_cons_cons, beq_eq_false_iff_ne.2 hc,
    Bool.false_and]

theorem declares_document (rest : String) : declares ("/// " ++ rest) = false :=
  declares_of_head (String.toList_append ..) (by decide)

theorem declares_line (definition : Definition) : declares (line definition) = false :=
  declares_of_head (line_toList definition) (by decide)

/-- The lines of a constant and its documentation. -/
def block (definition : Definition) (number : CallNumber) : List String :=
  documentation definition ++ [declaration definition number]

theorem text_eq_unlines (definitions : List Definition) (numbers : List CallNumber) :
    text definitions numbers = unlines ((List.zipWith block definitions numbers).flatten ++
      ["", caption, opening] ++ definitions.map line ++ ["];"]) := by
  have hheading : heading = unlines ["", caption, opening] := by decide
  have hclosing : closing = unlines ["];"] := by decide
  have hblock : (fun definition number => unlines (block definition number)) = constant := by
    funext definition number
    exact unlines_constant definition number
  have hconstants : List.zipWith constant definitions numbers =
      (List.zipWith block definitions numbers).map unlines := by
    rw [List.map_zipWith, hblock]
  have hentries : definitions.map entry = (definitions.map line).map (· ++ "\n") := by
    rw [List.map_map]
    exact List.map_congr_left fun definition _ => entry_eq definition
  rw [text, hconstants, ← unlines_flatten, hheading, hentries, hclosing]
  simp only [unlines_append]
  rfl

theorem break_not_mem_block {definition : Definition} (h : definition.identified = true)
    {number : CallNumber} {read : String} (hread : read ∈ block definition number) :
    '\n' ∉ read.toList := by
  rcases List.mem_append.1 hread with hread | hread
  · obtain ⟨piece, hpiece, rfl⟩ := List.mem_map.1 hread
    rw [String.toList_ofList]
    exact break_not_mem_splitOn hpiece
  · rw [List.mem_singleton.1 hread]
    exact break_not_mem_declaration h number

/-- The lines of the text: those of the constants, of the caption and the opening of the table, and
of the entries, and the one that closes the table. -/
theorem lines_text {definitions : List Definition}
    (h : ∀ definition ∈ definitions, definition.identified = true) (numbers : List CallNumber) :
    lines (text definitions numbers) = (List.zipWith block definitions numbers).flatten ++
      ["", caption, opening] ++ definitions.map line ++ ["];"] := by
  rw [text_eq_unlines]
  refine lines_unlines fun read hread => ?_
  simp only [List.mem_append] at hread
  rcases hread with ((hread | hread) | hread) | hread
  · obtain ⟨part, hpart, hread⟩ := List.mem_flatten.1 hread
    rw [← List.map_uncurry_zip_eq_zipWith] at hpart
    obtain ⟨⟨definition, number⟩, hpair, rfl⟩ := List.mem_map.1 hpart
    exact break_not_mem_block (h definition (List.of_mem_zip hpair).1) hread
  · have hfixed : ∀ fixed ∈ ["", caption, opening], '\n' ∉ fixed.toList := by decide
    exact hfixed read hread
  · obtain ⟨definition, hmem, rfl⟩ := List.mem_map.1 hread
    exact break_not_mem_line (h definition hmem)
  · rw [List.mem_singleton.1 hread]
    decide

/-- Blocks of some lines and one more for each definition. -/
theorem length_blocks {definitions : List Definition} {numbers : List CallNumber}
    (h : numbers.length = definitions.length) (several : Definition → List String)
    (one : Definition → CallNumber → String) :
    (List.zipWith (fun definition number => several definition ++ [one definition number])
      definitions numbers).flatten.length =
      (definitions.flatMap several).length + definitions.length := by
  induction definitions generalizing numbers with
  | nil => rfl
  | cons definition definitions ih =>
    cases numbers with
    | nil => cases h
    | cons number numbers =>
      rw [List.zipWith_cons_cons, List.flatten_cons, List.length_append, ih (Nat.succ.inj h),
        List.flatMap_cons, List.length_append, List.length_append, List.length_singleton,
        List.length_cons]
      omega

/-- The breaks in all descriptions. -/
def breaks (definitions : List Definition) : Nat :=
  (definitions.flatMap (·.description.toList)).count '\n'

theorem breaks_eq_zero_iff {definitions : List Definition} :
    breaks definitions = 0 ↔ ∀ definition ∈ definitions, '\n' ∉ definition.description.toList := by
  rw [breaks, List.count_eq_zero, List.mem_flatMap]
  simp only [not_exists, not_and]

/-- A break in a description is one more line of documentation. -/
theorem length_flatMap_documentation (definitions : List Definition) :
    (definitions.flatMap documentation).length = breaks definitions + definitions.length := by
  induction definitions with
  | nil => rfl
  | cons definition definitions ih =>
    have hbreaks : breaks (definition :: definitions) =
        definition.description.toList.count '\n' + breaks definitions := by
      rw [breaks, List.flatMap_cons, List.count_append]
      rfl
    rw [List.flatMap_cons, List.length_append, ih, length_documentation, hbreaks, List.length_cons]
    omega

theorem length_lines_text {definitions : List Definition} {numbers : List CallNumber}
    (h : ∀ definition ∈ definitions, definition.identified = true)
    (hlength : numbers.length = definitions.length) :
    (lines (text definitions numbers)).length =
      3 * definitions.length + 4 + breaks definitions := by
  have hblocks := length_blocks hlength documentation declaration
  have hlines : (List.zipWith block definitions numbers).flatten.length = _ := hblocks
  rw [lines_text h]
  simp only [List.length_append, List.length_map, List.length_cons, List.length_nil, hlines,
    length_flatMap_documentation]
  omega

/-- The lines of a description that are taken for declarations. The first line has the marker. -/
def disguised (definition : Definition) : List String :=
  (documentation definition).tail.filter declares

theorem filter_block (definition : Definition) (number : CallNumber) :
    (block definition number).filter declares =
      disguised definition ++ [declaration definition number] := by
  obtain ⟨head, rest, hdocumentation⟩ := exists_documentation definition
  rw [block, List.filter_append, disguised, hdocumentation, List.tail_cons,
    List.filter_cons_of_neg (by rw [declares_document]; decide),
    List.filter_cons_of_pos (declares_declaration definition number), List.filter_nil]

/-- The lines that begin as declarations do: those of the definitions, and those that descriptions
bring in. -/
theorem filter_lines_text {definitions : List Definition}
    (h : ∀ definition ∈ definitions, definition.identified = true) (numbers : List CallNumber) :
    (lines (text definitions numbers)).filter declares =
      (List.zipWith (fun definition number => disguised definition ++
        [declaration definition number]) definitions numbers).flatten := by
  have hfixed : ["", caption, opening].filter declares = [] := by decide
  have hclosing : ["];"].filter declares = [] := by decide
  have hentries : (definitions.map line).filter declares = [] := by
    refine List.filter_eq_nil_iff.2 fun read hread => ?_
    obtain ⟨definition, -, rfl⟩ := List.mem_map.1 hread
    rw [declares_line]
    decide
  rw [lines_text h, List.filter_append, List.filter_append, List.filter_append, hfixed, hclosing,
    hentries, List.append_nil, List.append_nil, List.append_nil, List.filter_flatten,
    List.map_zipWith]
  simp only [filter_block]

/-- The lines that begin as declarations do are those of the definitions just if no description
brings one in. -/
theorem filter_lines_text_eq_iff {definitions : List Definition} {numbers : List CallNumber}
    (h : ∀ definition ∈ definitions, definition.identified = true)
    (hlength : numbers.length = definitions.length) :
    (lines (text definitions numbers)).filter declares =
        List.zipWith declaration definitions numbers ↔
      ∀ definition ∈ definitions, disguised definition = [] := by
  rw [filter_lines_text h]
  constructor
  · -- a line that a description brings in is one too many
    intro hsame
    have hlines := congrArg List.length hsame
    rw [length_blocks hlength, List.length_zipWith, hlength, Nat.min_self] at hlines
    have hnone : (definitions.flatMap disguised).length = 0 := by omega
    exact List.flatMap_eq_nil_iff.1 (List.length_eq_zero_iff.1 hnone)
  · intro hnone
    induction definitions generalizing numbers with
    | nil => rfl
    | cons definition definitions ih =>
      cases numbers with
      | nil => cases hlength
      | cons number numbers =>
        rw [List.zipWith_cons_cons, List.zipWith_cons_cons, List.flatten_cons,
          hnone definition List.mem_cons_self,
          ih (fun other hother => h other (List.mem_cons_of_mem _ hother)) (Nat.succ.inj hlength)
            fun other hother => hnone other (List.mem_cons_of_mem _ hother)]
        rfl

theorem Regular.length {definitions : List Definition} {numbers : List CallNumber}
    {read : List String} (h : Regular definitions numbers read)
    (hlength : numbers.length = definitions.length) :
    read.length = 3 * definitions.length + 4 := by
  have hpairs : ∀ documents declared : List String, documents.length = declared.length →
      (List.zipWith (fun document line => [document, line]) documents declared).flatten.length =
        2 * documents.length := by
    intro documents declared hsame
    induction documents generalizing declared with
    | nil => rfl
    | cons document documents ih =>
      cases declared with
      | nil => cases hsame
      | cons line declared =>
        rw [List.zipWith_cons_cons, List.flatten_cons, List.length_append,
          ih declared (Nat.succ.inj hsame), List.length_cons, List.length_cons, List.length_nil,
          List.length_cons]
        omega
  obtain ⟨documents, entries, hdocuments, -, hentries, -, rfl⟩ := h
  have hdeclared : documents.length = (List.zipWith declaration definitions numbers).length := by
    rw [List.length_zipWith, hlength, Nat.min_self, hdocuments]
  simp only [List.length_append, hpairs documents _ hdeclared, List.length_cons, List.length_nil,
    hentries, hdocuments]
  omega

theorem regular_of_unbroken {definitions : List Definition}
    (h : ∀ definition ∈ definitions, definition.identified = true)
    (hunbroken : ∀ definition ∈ definitions, '\n' ∉ definition.description.toList)
    (numbers : List CallNumber) :
    Regular definitions numbers (lines (text definitions numbers)) := by
  have hblocks : List.zipWith block definitions numbers =
      List.zipWith (fun document declared => [document, declared])
        (definitions.map fun definition => "/// " ++ definition.description)
        (List.zipWith declaration definitions numbers) := by
    clear h
    induction definitions generalizing numbers with
    | nil => rfl
    | cons definition definitions ih =>
      cases numbers with
      | nil => rfl
      | cons number numbers =>
        have hone := documentation_of_unbroken (hunbroken definition List.mem_cons_self)
        have hothers := ih (fun other hother => hunbroken other (List.mem_cons_of_mem _ hother))
          numbers
        simp only [List.zipWith_cons_cons, List.map_cons, hothers, block, hone]
        rfl
  refine ⟨definitions.map fun definition => "/// " ++ definition.description,
    definitions.map line, List.length_map _, ?_, List.length_map _, ?_, ?_⟩
  · refine List.all_eq_true.2 fun read hread => ?_
    obtain ⟨definition, -, rfl⟩ := List.mem_map.1 hread
    exact begins_append _ _
  · refine List.all_eq_true.2 fun read hread => ?_
    obtain ⟨definition, -, rfl⟩ := List.mem_map.1 hread
    exact begins_line definition
  · rw [lines_text h, hblocks]

/-- The layout is regular just if no description holds a break: each break is a line too many. -/
theorem regular_iff_unbroken {definitions : List Definition} {numbers : List CallNumber}
    (h : ∀ definition ∈ definitions, definition.identified = true)
    (hlength : numbers.length = definitions.length) :
    Regular definitions numbers (lines (text definitions numbers)) ↔
      ∀ definition ∈ definitions, '\n' ∉ definition.description.toList := by
  refine ⟨fun hregular => ?_, fun hunbroken => regular_of_unbroken h hunbroken numbers⟩
  have hlines := length_lines_text h hlength
  rw [hregular.length hlength] at hlines
  exact breaks_eq_zero_iff.1 (by omega)

end Source

/-- The source text of a sound list, line by line. The lines are those of the documentation, where a
description has as many as its breaks make, of the declarations, and of the table, which has one
for each definition. They have the regular layout just if no description holds a break, and the
lines that look like declarations are the declarations just if no description brings in another. -/
theorem source_regular_iff_unbroken {definitions : List Definition} {numbers : List CallNumber}
    (hvalid : Definition.validate definitions = .ok numbers)
    (hnames : ∀ definition ∈ definitions, definition.identified = true) :
    let text := Source.text definitions numbers
    let lines := Source.lines text
    (text = Source.unlines lines ∧ ∀ line ∈ lines, '\n' ∉ line.toList) ∧
    lines = (List.zipWith (fun definition number =>
        Source.documentation definition ++ [Source.declaration definition number])
      definitions numbers).flatten ++ ["", Source.caption, Source.opening] ++
      definitions.map Source.line ++ ["];"] ∧
    lines.length = 3 * definitions.length + 4 + Source.breaks definitions ∧
    (Source.Regular definitions numbers lines ↔
      ∀ definition ∈ definitions, '\n' ∉ definition.description.toList) ∧
    (lines.filter Source.declares = List.zipWith Source.declaration definitions numbers ↔
      ∀ definition ∈ definitions,
        ∀ line ∈ (Source.documentation definition).tail, Source.declares line = false) := by
  intro text lines
  have hlength := Definition.judgeAll_length hvalid
  have hlines : lines = _ := Source.lines_text hnames numbers
  refine ⟨⟨?_, ?_⟩, hlines, Source.length_lines_text hnames hlength,
    Source.regular_iff_unbroken hnames hlength, ?_⟩
  · rw [hlines]
    exact Source.text_eq_unlines definitions numbers
  · intro line hline
    obtain ⟨piece, hpiece, rfl⟩ := List.mem_map.1 hline
    rw [String.toList_ofList]
    exact Source.break_not_mem_splitOn ((List.dropLast_sublist _).subset hpiece)
  · rw [Source.filter_lines_text_eq_iff hnames hlength]
    simp only [Source.disguised, List.filter_eq_nil_iff, Bool.not_eq_true]

/-- Descriptions on one line that look like the end of a comment, a literal or a declaration. -/
def unbroken : List Definition :=
  [⟨"LED_ON", "0x0100", "*/ \" \\ \t\r\x00\u0301"⟩,
    ⟨"LED_OFF", "0x0101", "pub const LED_ON: u16 = 0x0999;"⟩]

/-- They bring in no line. -/
theorem source_regular_iff_unbroken_unbroken :
    let lines := Source.lines (Source.text unbroken [0x0100, 0x0101])
    Source.Regular unbroken [0x0100, 0x0101] lines ∧ lines.length = 10 ∧
    lines.filter Source.declares =
      ["pub const LED_ON: u16 = 0x0100;", "pub const LED_OFF: u16 = 0x0101;"] := by
  intro lines
  have hvalid : Definition.validate unbroken = .ok [0x0100, 0x0101] := by decide
  obtain ⟨-, -, hlength, hregular, hdeclared⟩ := source_regular_iff_unbroken hvalid (by decide)
  refine ⟨hregular.2 (by decide), hlength.trans (by decide), (hdeclared.2 (by decide)).trans ?_⟩
  decide

/-- A description on two lines, of which the second one looks like the declaration of a constant. -/
def broken : List Definition :=
  [⟨"LED_ON", "0x0100", "Turn LED on.\npub const LED_OFF: u16 = 0x0999;"⟩]

/-- A sound list of one definition whose text has eight lines instead of seven. Two of them declare
a constant, and the first of the two constants is no definition's. -/
theorem broken_description_declares :
    Definition.validate broken = .ok [0x0100] ∧
    (∀ definition ∈ broken, definition.identified = true) ∧
    let lines := Source.lines (Source.text broken [0x0100])
    lines.length = 8 ∧ ¬ Source.Regular broken [0x0100] lines ∧
    lines.filter Source.declares =
      ["pub const LED_OFF: u16 = 0x0999;", "pub const LED_ON: u16 = 0x0100;"] := by
  have hnames : ∀ definition ∈ broken, definition.identified = true := by decide
  have hlength : (Source.lines (Source.text broken [0x0100])).length = 8 :=
    (Source.length_lines_text hnames rfl).trans (by decide)
  refine ⟨by decide, hnames, hlength, fun hregular => ?_, ?_⟩
  · rw [hregular.length rfl] at hlength
    cases hlength
  · rw [Source.filter_lines_text hnames]
    decide

end Switchboard
