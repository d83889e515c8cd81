import Mathlib.Data.List.Nodup
import Switchboard.Call.Standard
import Switchboard.Proofs.SourceLines

/-!
# What the source text declares

The source text is a program text, and here it is read as one, line by line. Ahead of the table a
line is blank, a comment, the declaration of a constant, or the attribute that takes the next
declaration away. No other line is known, and a text that has another one is not read. Constants
have names of their own. An entry of the table does not say its number: it names a constant, and
the number is the one that is declared under this name.

A description stands raw in a comment, so its further lines are lines of the text like any others.
What the text is read as is nevertheless decided definition by definition, as each one ends with the
declaration of its own constant and nothing that its description begins goes on behind it.
-/
namespace Switchboard.Source

/-- The words that no constant can have for a name. -/
def keywords : List String :=
  ["Self", "_", "abstract", "as", "async", "await", "become", "box", "break", "const", "continue",
    "crate", "do", "dyn", "else", "enum", "extern", "false", "final", "fn", "for", "gen", "if",
    "impl", "in", "let", "loop", "macro", "match", "mod", "move", "mut", "override", "priv", "pub",
    "ref", "return", "self", "static", "struct", "super", "trait", "true", "try", "type", "typeof",
    "unsafe", "unsized", "use", "virtual", "where", "while", "yield"]

/-- The names that are in use where the text is included: of the table, of functions, and of
variables, in whose place a constant would be matched against. -/
def occupied : List String :=
  ["SYS_ID_TABLE", "cat", "id", "info", "prefix", "start", "sys_info", "sys_name"]

/-- The name is a word that does not begin with a digit, and no keyword. -/
def isName (name : String) : Bool :=
  name.toList.all (fun c => c.isAlphanum || c == '_') && name.toList.head?.any (!·.isDigit) &&
    !keywords.contains name

/-- Reads a declaration. The name ends at the first colon, the number at the semicolon. -/
def readConstant (line : String) : Option (String × CallNumber) := do
  let rest ← line.toList.dropPrefix? "pub const ".toList
  let name := String.ofList (rest.takeWhile (· ≠ ':'))
  let rest ← (rest.dropWhile (· ≠ ':')).dropPrefix? ": u16 = 0x".toList
  let digits := rest.takeWhile (· ≠ ';')
  let number ← (Numeral.digits 0 digits).toOption
  if isName name ∧ digits ≠ [] ∧ rest.dropWhile (· ≠ ';') = [';'] then
    some (name, UInt16.ofNat number)
  else none

/-- The line is a comment on what comes next or on nothing. A carriage return may only stand at its
end, where it belongs to the break. -/
def isComment (line : String) : Bool :=
  begins "//" line && !begins "//!" line && !line.toList.dropLast.contains '\r'

/-- What a line ahead of the table is. -/
inductive Item where
  | silent
  /-- The next declaration is taken away. -/
  | strike
  | constant (name : String) (number : CallNumber)

def readItem (line : String) : Option Item :=
  if line = "" ∨ isComment line then some .silent
  else if line = "#[cfg(any())]" then some .strike
  else (readConstant line).map fun (name, number) => .constant name number

/-- The constants that lines declare, in order, and whether the declaration that comes next is taken
away, as the first one is if `struck`. -/
def declare (struck : Bool) : List String → Option (List (String × CallNumber) × Bool)
  | [] => some ([], struck)
  | line :: rest =>
    match readItem line with
    | none => none
    | some .silent => declare struck rest
    | some .strike => declare true rest
    | some (.constant name number) =>
      (declare false rest).map fun (others, after) =>
        (if struck then others else (name, number) :: others, after)

/-- The lines ahead of the last one that opens a table. -/
def headLines (text : String) : List String :=
  (((lines text).reverse.dropWhile (· ≠ opening)).drop 1).reverse

/-- No name is declared twice, and none that is in use. -/
def Distinct (declared : List (String × CallNumber)) : Prop :=
  (declared.map Prod.fst).Nodup ∧ ∀ name ∈ declared.map Prod.fst, name ∉ occupied

instance (declared : List (String × CallNumber)) : Decidable (Distinct declared) :=
  inferInstanceAs (Decidable (_ ∧ _))

/-- What an entry of the table stands for. It takes its number from a constant. -/
def resolve (declared : List (String × CallNumber)) (row : Row) : Option CallInfo := do
  let number ← declared.lookup row.constant
  return ⟨number, row.name, row.description⟩

/-- The table that a text stands for: its entries, with the numbers of the constants that its lines
declare. -/
def readTable (text : String) : Option (List CallInfo) := do
  let (declared, struck) ← declare false (headLines text)
  let rows ← (tableLines text).mapM readRow
  if struck = false ∧ Distinct declared ∧ (lines text).getLast? = some "];" then
    rows.mapM (resolve declared)
  else none

/-- What the lines of one definition declare: what its description brings in, and its own constant,
unless the description takes that away. -/
def declaredBy (definition : Definition) (number : CallNumber) :
    Option (List (String × CallNumber)) :=
  (declare false (block definition number)).map Prod.fst

/-- What the lines of all definitions declare. -/
def declared? (definitions : List Definition) (numbers : List CallNumber) :
    Option (List (String × CallNumber)) :=
  ((definitions.zip numbers).mapM fun pair => declaredBy pair.1 pair.2).map List.flatten

theorem digits_digitChar {value d : Nat} (hd : d < 16) (h : value * 16 + d < 65536)
    (rest : List Char) :
    Numeral.digits value (d.digitChar :: rest) = Numeral.digits (value * 16 + d) rest := by
  rw [Numeral.digits, Quoted.digit?_digitChar d hd]
  exact if_pos h

/-- The four digits of a word are read as the word. -/
theorem digits_fourDigits (word : CallNumber) :
    Numeral.digits 0 (Hex.fourDigits word) = .ok word.toNat := by
  have hword := word.toNat_lt
  have hvalue : (((0 * 16 + word.toNat / 4096 % 16) * 16 + word.toNat / 256 % 16) * 16 +
      word.toNat / 16 % 16) * 16 + word.toNat % 16 = word.toNat := by omega
  rw [Hex.fourDigits, digits_digitChar (by omega) (by omega),
    digits_digitChar (by omega) (by omega), digits_digitChar (by omega) (by omega),
    digits_digitChar (by omega) (by omega), hvalue]
  rfl

/-- A declaration is read as what it was written for, if a constant can have its name. -/
theorem readConstant_declaration {definition : Definition} (h : definition.identified = true)
    (number : CallNumber) :
    readConstant (declaration definition number) =
      if isName definition.name then some (definition.name, number) else none := by
  have hname : ':' ∉ definition.name.toList := not_mem_name h (by decide)
  have hdigits : ';' ∉ Hex.fourDigits number := not_mem_fourDigits (by decide) number
  have hsome : Hex.fourDigits number ≠ [] := List.cons_ne_nil _ _
  have hlist : (declaration definition number).toList = "pub const ".toList ++
      (definition.name.toList ++ ':' :: (" u16 = 0x".toList ++
        (Hex.fourDigits number ++ [';']))) := by
    have hequals : ": u16 = ".toList ++ "0x".toList = ':' :: " u16 = 0x".toList := by decide
    simp only [declaration, Hex.word, String.toList_append, String.toList_ofList,
      List.append_assoc, ← List.cons_append, ← hequals]
    rfl
  have hprefix : ∀ expected rest : List Char, (expected ++ rest).dropPrefix? expected = some rest :=
    fun expected rest => List.dropPrefix?_append_of_beq rest (beq_self_eq_true expected)
  have hequals : ∀ rest : List Char, (':' :: (" u16 = 0x".toList ++ rest)).dropPrefix?
      ": u16 = 0x".toList = some rest := hprefix ": u16 = 0x".toList
  simp only [readConstant, hlist, hprefix, takeWhile_of_not_mem hname, dropWhile_of_not_mem hname,
    hequals, takeWhile_of_not_mem hdigits, dropWhile_of_not_mem hdigits, digits_fourDigits,
    Option.bind_eq_bind, Option.bind_some, String.ofList_toList, Except.toOption,
    UInt16.ofNat_toNat, hsome, ne_eq, not_false_eq_true, and_true]

theorem readItem_declaration {definition : Definition} (h : definition.identified = true)
    (number : CallNumber) :
    readItem (declaration definition number) =
      if isName definition.name then some (.constant definition.name number) else none := by
  have hlead : "pub const ".toList = 'p' :: "ub const ".toList := by decide
  obtain ⟨rest, hlist⟩ : ∃ rest, (declaration definition number).toList = 'p' :: rest := by
    rw [declaration, String.append_assoc, String.append_assoc, String.append_assoc,
      String.toList_append, hlead]
    exact ⟨_, rfl⟩
  have hblank : declaration definition number ≠ "" := by
    intro hblank
    rw [hblank] at hlist
    cases hlist
  have hcomment : isComment (declaration definition number) = false := by
    rw [isComment, begins, hlist]
    rfl
  have hstrike : declaration definition number ≠ "#[cfg(any())]" := by
    intro hstrike
    rw [hstrike] at hlist
    cases hlist
  rw [readItem, hcomment, if_neg (by simp [hblank]), if_neg hstrike, readConstant_declaration h]
  split <;> rfl

/-- Lines are read one part after the other. The induction is on the first part; what it leaves
struck is what the second part begins with. -/
theorem declare_append (struck : Bool) (first second : List String) :
    declare struck (first ++ second) =
      (declare struck first).bind fun (one, between) =>
        (declare between second).map fun (other, after) => (one ++ other, after) := by
  induction first generalizing struck with
  | nil =>
    show declare struck second = (declare struck second).map fun found => found
    rw [Option.map_id']
  | cons line rest ih =>
    rw [List.cons_append, declare, declare]
    cases readItem line with
    | none => rfl
    | some item =>
      cases item with
      | silent => exact ih struck
      | strike => exact ih true
      | constant name number =>
        simp only [ih]
        cases declare false rest with
        | none => rfl
        | some found =>
          cases hsecond : declare found.2 second with
          | none => simp [hsecond]
          | some last => cases struck <;> simp [hsecond]

section Block

variable {definition : Definition} (h : definition.identified = true) (number : CallNumber)

include h in
/-- A description brings in what its lines declare, and decides about the constant behind it. -/
theorem declare_block :
    declare false (block definition number) =
      (declare false (documentation definition)).bind fun found =>
        if isName definition.name then
          some (found.1 ++ if found.2 then [] else [(definition.name, number)], false)
        else none := by
  rw [block, declare_append]
  refine congrArg _ (funext fun found => ?_)
  obtain ⟨brought, struck⟩ := found
  show (declare struck [declaration definition number]).map _ =
    if isName definition.name = true then _ else none
  rw [declare, readItem_declaration h]
  by_cases hname : isName definition.name = true
  · rw [if_pos hname, if_pos hname]
    cases struck <;> simp [declare]
  · rw [if_neg hname, if_neg hname]
    rfl

include h in
theorem declare_block_eq :
    declare false (block definition number) =
      (declaredBy definition number).map fun declared => (declared, false) := by
  rw [declaredBy, declare_block h]
  cases declare false (documentation definition) with
  | none => rfl
  | some found =>
    simp only [Option.bind_some]
    split <;> rfl

end Block

theorem declare_blocks {definitions : List Definition}
    (h : ∀ definition ∈ definitions, definition.identified = true) (numbers : List CallNumber) :
    declare false (List.zipWith block definitions numbers).flatten =
      (declared? definitions numbers).map fun declared => (declared, false) := by
  induction definitions generalizing numbers with
  | nil => rfl
  | cons definition definitions ih =>
    cases numbers with
    | nil => rfl
    | cons number numbers =>
      have hrest := ih (fun other hother => h other (List.mem_cons_of_mem _ hother)) numbers
      rw [List.zipWith_cons_cons, List.flatten_cons, declare_append,
        declare_block_eq (h definition List.mem_cons_self), declared?, List.zip_cons_cons,
        List.mapM_cons]
      cases declaredBy definition number with
      | none => rfl
      | some first =>
        simp only [Option.map_some, Option.bind_some, hrest, declared?, Option.bind_eq_bind,
          Option.pure_def]
        cases (definitions.zip numbers).mapM fun pair => declaredBy pair.1 pair.2 <;> rfl

theorem headLines_text {definitions : List Definition}
    (h : ∀ definition ∈ definitions, definition.identified = true) (numbers : List CallNumber) :
    headLines (text definitions numbers) =
      (List.zipWith block definitions numbers).flatten ++ ["", caption] := by
  have hentries : ∀ read ∈ "];" :: (definitions.map line).reverse,
      decide (read ≠ opening) = true := by
    intro read hread
    rcases List.mem_cons.1 hread with rfl | hread
    · decide
    · obtain ⟨definition, -, rfl⟩ := List.mem_map.1 (List.mem_reverse.1 hread)
      exact decide_eq_true (line_ne_opening definition)
  have hreverse : (lines (text definitions numbers)).reverse =
      ("];" :: (definitions.map line).reverse) ++ opening ::
        ((List.zipWith block definitions numbers).flatten ++ ["", caption]).reverse := by
    rw [lines_text h]
    simp
  rw [headLines, hreverse, List.dropWhile_append_of_pos hentries,
    List.dropWhile_cons_of_neg (by simp)]
  simp

/-- Reading succeeds where each line is read. -/
theorem mapM_eq_some_iff {α β : Type} {read : α → Option β} {lines : List α} {results : List β} :
    lines.mapM read = some results ↔ lines.map read = results.map some := by
  induction lines generalizing results with
  | nil => cases results <;> simp
  | cons line lines ih =>
    rw [List.mapM_cons, List.map_cons]
    cases results with
    | nil =>
      cases read line with
      | none => simp
      | some one => cases lines.mapM read <;> simp
    | cons result results =>
      rw [List.map_cons, List.cons.injEq, ← ih]
      cases read line with
      | none => simp
      | some one => cases lines.mapM read <;> simp

/-- What stands in the text as a table: the entries of the definitions, with the numbers that all
lines of the definitions declare. -/
theorem readTable_text {definitions : List Definition}
    (h : ∀ definition ∈ definitions, definition.identified = true) (numbers : List CallNumber) :
    readTable (text definitions numbers) =
      (declared? definitions numbers).bind fun declared =>
        if Distinct declared then (definitions.map row).mapM (resolve declared) else none := by
  have hcaption : declare false ["", caption] = some ([], false) := by decide
  have hlast : (lines (text definitions numbers)).getLast? = some "];" := by
    rw [lines_text h, List.getLast?_append]
    rfl
  have hhead : declare false (headLines (text definitions numbers)) =
      (declared? definitions numbers).map fun declared => (declared, false) := by
    rw [headLines_text h, declare_append, declare_blocks h]
    cases declared? definitions numbers with
    | none => rfl
    | some declared => simp [hcaption]
  have hrows := mapM_eq_some_iff.2 (rows_text h numbers)
  rw [readTable, hhead, hrows, hlast]
  cases declared? definitions numbers with
  | none => rfl
  | some declared => simp

end Switchboard.Source
