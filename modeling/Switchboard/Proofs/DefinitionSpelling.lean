import Mathlib.Data.List.Forall2
import Switchboard.Call.DefinitionFile
import Switchboard.Proofs.ValueSpelling

/-!
# The spellings of a definition file

All that counts of a definition file are the names, values and descriptions that it holds. A
definition may be an object, whose fields stand in any order among fields that mean nothing here, or
an array of the three texts, and every value may be spelled in any way. What a build ends with is
what the definitions alone lead to.
-/
namespace Switchboard

open Json

namespace Definition

/-- The members that an object must have. -/
def fields (definition : Definition) : List (Option String × Value) :=
  [(some "name", .text definition.name), (some "value", .text definition.value),
    (some "description", .text definition.description)]

/-- The values that stand for a definition. -/
inductive Written (definition : Definition) : Value → Prop
  | object {members others : List (Option String × Value)}
      (horder : members.Perm (definition.fields ++ others))
      (hothers : ∀ member ∈ others,
        ∃ key, member.1 = some key ∧ key ∉ ["name", "value", "description"]) :
      Written definition (.object members)
  | array : Written definition
      (.array [.text definition.name, .text definition.value, .text definition.description])

end Definition

namespace DefinitionFile

/-- The file is an array that holds these definitions in order. -/
def Spells (definitions : List Definition) (text : String) : Prop :=
  ∃ elements, List.Forall₂ Definition.Written definitions elements ∧
    (Value.array elements).Spelled text.toList

/-- What the build of a file ends with: the message that it stops with, or the text that it writes
and the lines that it says. -/
def outcome (text : String) : Except String (String × List String) :=
  match compile text with
  | .error fault => .error fault.message
  | .ok source => .ok (source, buildLines)

end DefinitionFile

/-- A field that is given once is found wherever it stands. -/
theorem Json.field?_of_perm {members fields others : List (Option String × Value)}
    (horder : members.Perm (fields ++ others)) {key value : String}
    (hfield : fields.filter (·.1 = some key) = [(some key, .text value)])
    (hothers : ∀ member ∈ others, member.1 ≠ some key) : field? members key = some value := by
  have hnone : others.filter (·.1 = some key) = [] :=
    List.filter_eq_nil_iff.2 fun member hmember => by simpa using hothers member hmember
  have hone := horder.filter (·.1 = some key)
  rw [List.filter_append, hfield, hnone, List.append_nil, List.perm_singleton] at hone
  rw [field?, hone]

theorem Definition.Written.ofValue?_eq {definition : Definition} {value : Value}
    (h : definition.Written value) : Definition.ofValue? value = some definition := by
  cases h with
  | @object members others horder hothers =>
    have hkeys : members.all (·.1.isSome) = true := by
      rw [List.all_eq_true]
      intro member hmember
      rcases List.mem_append.1 (horder.mem_iff.1 hmember) with hfield | hother
      · have hall : ∀ member ∈ definition.fields, member.1.isSome = true := by
          simp [Definition.fields]
        exact hall member hfield
      · obtain ⟨key, hkey, -⟩ := hothers member hother
        rw [hkey]
        rfl
    have hapart : ∀ key ∈ ["name", "value", "description"], ∀ member ∈ others,
        member.1 ≠ some key := by
      intro key hkey member hmember hsame
      obtain ⟨other, hother, hnot⟩ := hothers member hmember
      exact hnot (Option.some.inj (hother.symm.trans hsame) ▸ hkey)
    have hname : field? members "name" = some definition.name :=
      field?_of_perm horder (by simp [Definition.fields]) (hapart _ (by simp))
    have hvalue : field? members "value" = some definition.value :=
      field?_of_perm horder (by simp [Definition.fields]) (hapart _ (by simp))
    have hdescription : field? members "description" = some definition.description :=
      field?_of_perm horder (by simp [Definition.fields]) (hapart _ (by simp))
    rw [Definition.ofValue?, if_pos hkeys, hname, hvalue, hdescription]
    rfl
  | array => rfl

namespace DefinitionFile

theorem mapM_ofValue? {definitions : List Definition} {elements : List Value}
    (h : List.Forall₂ Definition.Written definitions elements) :
    elements.mapM Definition.ofValue? = some definitions := by
  induction h with
  | nil => rfl
  | cons hwritten _ ih =>
    rw [List.mapM_cons, hwritten.ofValue?_eq, ih]
    rfl

theorem Spells.read_eq {definitions : List Definition} {text : String}
    (h : Spells definitions text) : read text = some definitions := by
  obtain ⟨elements, helements, htext⟩ := h
  rw [read, htext.read_eq]
  exact mapM_ofValue? helements

end DefinitionFile

namespace Json

theorem Piece.join_cons_char (c : Char) (rest : List Piece) :
    join (.char c :: rest) = (join rest).map (c :: ·) := rfl

/-- Every character can be given in some way, by its code unit if it is a control character. -/
theorem Piece.exists_spelled (c : Char) : ∃ (piece : Piece) (text : List Char),
    piece.Spelled text ∧ ∀ rest, join (piece :: rest) = (join rest).map (c :: ·) := by
  by_cases hcontrol : c.toNat < 0x20
  · have hhigh : ¬ High c.toNat := by unfold High; omega
    have hlow : ¬ Low c.toNat := by unfold Low; omega
    have hunit : 0 * 4096 + 0 * 256 + c.toNat / 16 * 16 + c.toNat % 16 = c.toNat := by omega
    have hdigit : ∀ d < 16, HexDigit d.digitChar d := fun d hd => ⟨hd, .inl rfl⟩
    have hspelled := Spelled.unit (hdigit 0 (by decide)) (hdigit 0 (by decide))
      (hdigit (c.toNat / 16) (by omega)) (hdigit (c.toNat % 16) (by omega))
    rw [hunit] at hspelled
    refine ⟨_, _, hspelled, fun rest => ?_⟩
    rw [join_alone hhigh hlow, Char.ofNat_toNat]
  · rw [Nat.not_lt] at hcontrol
    by_cases hquote : c = '"'
    · subst hquote
      exact ⟨.char '"', ['\\', '"'], .letter (by decide), join_cons_char _⟩
    · by_cases hback : c = '\\'
      · subst hback
        exact ⟨.char '\\', ['\\', '\\'], .letter (by decide), join_cons_char _⟩
      · exact ⟨.char c, _, .itself hcontrol hquote hback, join_cons_char _⟩

theorem StringSpelled.exists_spelled (value : String) :
    ∃ text, StringSpelled (some value) text := by
  have hpieces : ∀ text : List Char, ∃ pieces : List (Piece × List Char),
      (∀ piece ∈ pieces, piece.1.Spelled piece.2) ∧
        Piece.join (pieces.map (·.1)) = some text := by
    intro text
    induction text with
    | nil => exact ⟨[], nofun, rfl⟩
    | cons c text ih =>
      obtain ⟨pieces, hpieces, hjoin⟩ := ih
      obtain ⟨piece, spelled, hspelled, hcons⟩ := Piece.exists_spelled c
      refine ⟨(piece, spelled) :: pieces, List.forall_mem_cons.2 ⟨hspelled, hpieces⟩, ?_⟩
      rw [List.map_cons, hcons, hjoin, Option.map_some]
  obtain ⟨pieces, hspelled, hjoin⟩ := hpieces value.toList
  have hquoted := StringSpelled.quoted hspelled
  rw [hjoin, Option.map_some, String.ofList_toList] at hquoted
  exact ⟨_, hquoted⟩

end Json

namespace Definition

theorem exists_spelled (definition : Definition) :
    ∃ item : Value × List Char, definition.Written item.1 ∧ item.1.Spelled item.2 := by
  obtain ⟨name, hname⟩ := StringSpelled.exists_spelled definition.name
  obtain ⟨value, hvalue⟩ := StringSpelled.exists_spelled definition.value
  obtain ⟨description, hdescription⟩ := StringSpelled.exists_spelled definition.description
  have hitems : ∀ item ∈ [(Value.text definition.name, name), (.text definition.value, value),
      (.text definition.description, description)], item.1.Spelled item.2 := by
    simp only [List.forall_mem_cons]
    exact ⟨.text hname, .text hvalue, .text hdescription, nofun⟩
  have hgap : Gap [] := by decide
  exact ⟨(_, _), .array, .array hgap hitems⟩

end Definition

theorem DefinitionFile.exists_spelled (definitions : List Definition) :
    ∃ text, Spells definitions text := by
  have hitems : ∃ items : List (Value × List Char),
      List.Forall₂ Definition.Written definitions (items.map (·.1)) ∧
        ∀ item ∈ items, item.1.Spelled item.2 := by
    induction definitions with
    | nil => exact ⟨[], .nil, nofun⟩
    | cons definition definitions ih =>
      obtain ⟨items, hwritten, hspelled⟩ := ih
      obtain ⟨item, hitem, htext⟩ := definition.exists_spelled
      exact ⟨item :: items, .cons hitem hwritten, List.forall_mem_cons.2 ⟨htext, hspelled⟩⟩
  obtain ⟨items, hwritten, hspelled⟩ := hitems
  have hgap : Gap [] := by decide
  have htext := Value.Spelled.array hgap hspelled
  rw [← String.toList_ofList (l := _ ++ [']'])] at htext
  exact ⟨_, _, hwritten, htext⟩

/-- Every list of definitions can be spelled, and whatever spelling is taken, the build of the file
ends as the definitions have it: with the message of what is wrong with them, or with the source
text for them and their numbers and the lines that say what to look at. -/
theorem definition_file_any_spelling (definitions : List Definition) :
    (∃ text, DefinitionFile.Spells definitions text) ∧
    ∀ text, DefinitionFile.Spells definitions text →
      DefinitionFile.read text = some definitions ∧
      DefinitionFile.outcome text =
        match Definition.validate definitions with
        | .error fault => .error fault.message
        | .ok numbers => .ok (Source.text definitions numbers,
            ["cargo:rerun-if-changed=build.rs", "cargo:rerun-if-changed=sys_ids.json"]) := by
  refine ⟨DefinitionFile.exists_spelled definitions, fun text h => ⟨h.read_eq, ?_⟩⟩
  rw [DefinitionFile.outcome, DefinitionFile.compile, h.read_eq]
  simp only [DefinitionFile.generate]
  cases Definition.validate definitions <;> rfl

/-- A text with nothing to escape. -/
def Json.Plain (text : List Char) : Prop := ∀ c ∈ text, 0x20 ≤ c.toNat ∧ c ≠ '"' ∧ c ≠ '\\'

instance (text : List Char) : Decidable (Json.Plain text) := List.decidableBAll _ text

/-- A string with nothing to escape may be written as it is. -/
theorem Json.StringSpelled.plain {value : String} (h : Plain value.toList) :
    StringSpelled (some value) ('"' :: (value.toList ++ ['"'])) := by
  have hspelled : ∀ piece ∈ value.toList.map fun c => (Piece.char c, [c]),
      piece.1.Spelled piece.2 := by
    intro piece hpiece
    obtain ⟨c, hc, rfl⟩ := List.mem_map.1 hpiece
    obtain ⟨hcontrol, hquote, hback⟩ := h c hc
    exact .itself hcontrol hquote hback
  have hjoin : ∀ text : List Char, Piece.join (text.map .char) = some text := by
    intro text
    induction text with
    | nil => rfl
    | cons c text ih => rw [List.map_cons, Piece.join_cons_char, ih, Option.map_some]
  have hquoted := StringSpelled.quoted hspelled
  have hchars : (value.toList.map fun c => (Piece.char c, [c])).map (·.1) =
      value.toList.map .char := List.map_map ..
  rw [hchars, hjoin, Option.map_some, String.ofList_toList, List.flatMap_map,
    List.flatMap_singleton'] at hquoted
  exact hquoted

/-- Fields out of order, one that means nothing and holds a string that is no text, and a name that
is given as a surrogate pair, beside an array of three texts with white space before it. -/
theorem definition_file_any_spelling_escapes :
    let text := "[\x7b\"description\":\"\",\"note\":[\"\\ud800\",true],\"value\":\"0x0g\"," ++
      "\"name\":\"\\uD83D\\uDe00\"\x7d,\n[\"HALT\",\"0x100\",\"\"]]"
    DefinitionFile.Spells [⟨"😀", "0x0g", ""⟩, ⟨"HALT", "0x100", ""⟩] text ∧
      DefinitionFile.outcome text =
        .error "Invalid value '0x0g' for 😀: invalid digit found in string" := by
  intro text
  have hname : StringSpelled (some "😀") "\"\\uD83D\\uDe00\"".toList := by
    have hD : HexDigit 'D' 0xd := by decide
    have h8 : HexDigit '8' 8 := by decide
    have h3 : HexDigit '3' 3 := by decide
    have he : HexDigit 'e' 0xe := by decide
    have h0 : HexDigit '0' 0 := by decide
    have hpieces : ∀ piece ∈ [(Piece.unit 0xd83d, "\\uD83D".toList),
        (.unit 0xde00, "\\uDe00".toList)], piece.1.Spelled piece.2 := by
      simp only [List.forall_mem_cons]
      exact ⟨.unit hD h8 h3 hD, .unit hD he h0 h0, nofun⟩
    exact .quoted hpieces
  have hhalf : StringSpelled none "\"\\ud800\"".toList := by
    have hd : HexDigit 'd' 0xd := by decide
    have h8 : HexDigit '8' 8 := by decide
    have h0 : HexDigit '0' 0 := by decide
    have hpieces : ∀ piece ∈ [(Piece.unit 0xd800, "\\ud800".toList)], piece.1.Spelled piece.2 := by
      simp only [List.forall_mem_cons]
      exact ⟨.unit hd h8 h0 h0, nofun⟩
    exact .quoted hpieces
  let note : Value := .array [.text none, .boolean true]
  have hnote : note.Spelled "[\"\\ud800\",true]".toList := by
    have hitems : ∀ item ∈ [(Value.text none, "\"\\ud800\"".toList),
        (.boolean true, "true".toList)], item.1.Spelled item.2 := by
      simp only [List.forall_mem_cons]
      exact ⟨.text hhalf, .boolean, nofun⟩
    exact @Value.Spelled.array [] _ (by decide) hitems
  let members : List Member := [
    ⟨some "description", "\"description\"".toList, .text (some ""), "\"\"".toList⟩,
    ⟨some "note", "\"note\"".toList, note, "[\"\\ud800\",true]".toList⟩,
    ⟨some "value", "\"value\"".toList, .text (some "0x0g"), "\"0x0g\"".toList⟩,
    ⟨some "name", "\"name\"".toList, .text (some "😀"), "\"\\uD83D\\uDe00\"".toList⟩]
  have hkeys : ∀ member ∈ members, member.KeySpelled := by
    have hplain : ∀ (key : String) (value : Value) (text : List Char),
        Plain key.toList →
          Member.KeySpelled ⟨some key, '"' :: (key.toList ++ ['"']), value, text⟩ :=
      fun key _ _ h => ⟨[], _, [], by decide, .plain h, by decide, (List.append_nil _).symm⟩
    simp only [members, List.forall_mem_cons]
    exact ⟨hplain _ _ _ (by decide), hplain _ _ _ (by decide), hplain _ _ _ (by decide),
      hplain _ _ _ (by decide), nofun⟩
  have hvalues : ∀ member ∈ members, member.value.Spelled member.valueText := by
    simp only [members, List.forall_mem_cons]
    exact ⟨.text (.plain (by decide)), hnote, .text (.plain (by decide)), .text hname, nofun⟩
  have htexts : ∀ item ∈ [(Value.text (some "HALT"), "\"HALT\"".toList),
      (.text (some "0x100"), "\"0x100\"".toList), (.text (some ""), "\"\"".toList)],
      item.1.Spelled item.2 := by
    simp only [List.forall_mem_cons]
    exact ⟨.text (.plain (by decide)), .text (.plain (by decide)), .text (.plain (by decide)),
      nofun⟩
  let items : List (Value × List Char) := [
    (.object (members.map (·.entry)), ['\x7b'] ++ separated (members.map (·.text)) ++ ['\x7d']),
    (.array [.text (some "HALT"), .text (some "0x100"), .text (some "")],
      ['\n'] ++ ("[\"HALT\",\"0x100\",\"\"]".toList ++ []))]
  have hitems : ∀ item ∈ items, item.1.Spelled item.2 := by
    simp only [items, List.forall_mem_cons]
    exact ⟨.object (by decide) hkeys hvalues,
      .padded (by decide) (@Value.Spelled.array [] _ (by decide) htexts) (by decide), nofun⟩
  have htext : text.toList = ['['] ++ separated (items.map (·.2)) ++ [']'] := by
    rw [String.toList_append]
    decide +kernel
  have horder : (members.map (·.entry)).Perm
      (Definition.fields ⟨"😀", "0x0g", ""⟩ ++ [(some "note", note)]) :=
    (List.reverse_perm _).symm.trans (.cons _ (.cons _ (.swap _ _ _)))
  have hother : ∀ member ∈ [(some "note", note)],
      ∃ key, member.1 = some key ∧ key ∉ ["name", "value", "description"] :=
    List.forall_mem_singleton.2 ⟨"note", rfl, by decide⟩
  have hspells : DefinitionFile.Spells [⟨"😀", "0x0g", ""⟩, ⟨"HALT", "0x100", ""⟩] text :=
    ⟨_, .cons (.object horder hother) (.cons .array .nil), htext ▸ .array (by decide) hitems⟩
  refine ⟨hspells, ?_⟩
  rw [((definition_file_any_spelling _).2 text hspells).2]
  decide

end Switchboard
