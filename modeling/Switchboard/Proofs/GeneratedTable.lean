import Switchboard.Proofs.SourceReading

/-!
# From definitions to the table of calls

An entry of the table does not say its number: it names a constant, and the constants are declared
one by one ahead of the table. A sound list gives no name and no number twice, so as long as the
constant of an entry is that of its own definition the table is faithful: the search by number,
which stops at the first entry, finds the one entry that there is. But the description of a
definition stands raw ahead of its constant, and the lines that it brings in can declare a constant
of the same name and take the definition's own one away. The table is faithful just if every
definition's own constant is among those that are declared.
-/
namespace Switchboard

namespace Definition

theorem judge_eq_ok_iff {definition : Definition} {names : List String}
    {taken : List CallNumber} {number : CallNumber} :
    definition.judge names taken = .ok number ↔ Numeral.read definition.value = .ok number ∧
      ¬(number < leastNumber ∨ greatestNumber < number) ∧ definition.name ∉ names ∧
        number ∉ taken := by
  unfold judge
  cases Numeral.read definition.value with
  | error error => simp
  | ok read =>
    simp only [Except.ok.injEq]
    constructor
    · intro h
      split at h
      · cases h
      next hrange =>
        split at h
        · cases h
        next hname =>
          split at h
          · cases h
          next hnumber =>
            cases h
            exact ⟨rfl, hrange, hname, hnumber⟩
    · rintro ⟨rfl, hrange, hname, hnumber⟩
      rw [if_neg hrange, if_neg hname, if_neg hnumber]

theorem judgeAll_cons_eq_ok_iff {definition : Definition} {rest : List Definition}
    {names : List String} {taken numbers : List CallNumber} :
    judgeAll names taken (definition :: rest) = .ok numbers ↔ ∃ number others,
      definition.judge names taken = .ok number ∧
        judgeAll (definition.name :: names) (number :: taken) rest = .ok others ∧
          numbers = number :: others := by
  rw [judgeAll]
  cases definition.judge names taken with
  | error fault => simp [bind, Except.bind]
  | ok number =>
    cases hrest : judgeAll (definition.name :: names) (number :: taken) rest with
    | error fault => simp [bind, Except.bind, hrest]
    | ok others => simp [bind, Except.bind, pure, Except.pure, hrest, eq_comm]

/-- What a list is once it is accepted while some names and numbers are taken. -/
structure Sound (names : List String) (taken : List CallNumber) (definitions : List Definition)
    (numbers : List CallNumber) : Prop where
  read : List.Forall₂ (fun definition number => Numeral.read definition.value = .ok number)
    definitions numbers
  namesApart : (definitions.map (·.name)).Nodup
  numbersApart : numbers.Nodup
  namesFree : ∀ definition ∈ definitions, definition.name ∉ names
  numbersFree : ∀ number ∈ numbers, number ∉ taken

/-- Each definition that is accepted takes its name and its number, so no later one has them. -/
theorem sound_of_judgeAll {names : List String} {taken numbers : List CallNumber}
    {definitions : List Definition} (h : judgeAll names taken definitions = .ok numbers) :
    Sound names taken definitions numbers := by
  induction definitions generalizing names taken numbers with
  | nil =>
    cases h
    exact ⟨.nil, List.nodup_nil, List.nodup_nil, by simp, by simp⟩
  | cons definition rest ih =>
    obtain ⟨number, others, hjudge, hrest, rfl⟩ := judgeAll_cons_eq_ok_iff.1 h
    obtain ⟨hread, -, hname, hnumber⟩ := judge_eq_ok_iff.1 hjudge
    -- the rest was judged with this name and this number taken
    have hothers := ih hrest
    refine ⟨.cons hread hothers.read, ?_, ?_, ?_, ?_⟩
    · rw [List.map_cons, List.nodup_cons]
      refine ⟨fun hmem => ?_, hothers.namesApart⟩
      obtain ⟨other, hother, hsame⟩ := List.mem_map.1 hmem
      exact hothers.namesFree other hother (hsame ▸ List.mem_cons_self)
    · rw [List.nodup_cons]
      exact ⟨fun hmem => hothers.numbersFree number hmem List.mem_cons_self, hothers.numbersApart⟩
    · intro other hother
      rcases List.mem_cons.1 hother with rfl | hother
      · exact hname
      · exact fun hmem => hothers.namesFree other hother (List.mem_cons_of_mem _ hmem)
    · intro other hother
      rcases List.mem_cons.1 hother with rfl | hother
      · exact hnumber
      · exact fun hmem => hothers.numbersFree other hother (List.mem_cons_of_mem _ hmem)

/-- Each definition has its own number, which is what its value is read as. -/
theorem Sound.number_of_get {names : List String} {taken numbers : List CallNumber}
    {definitions : List Definition} (h : Sound names taken definitions numbers) {i : Nat}
    {definition : Definition} (hdefinition : definitions[i]? = some definition) :
    ∃ number, numbers[i]? = some number ∧ Numeral.read definition.value = .ok number := by
  obtain ⟨hi, hget⟩ := List.getElem?_eq_some_iff.1 hdefinition
  have hnumber : i < numbers.length := h.read.length_eq ▸ hi
  have hread := h.read.get hi hnumber
  rw [List.get_eq_getElem, hget] at hread
  exact ⟨_, List.getElem?_eq_getElem hnumber, hread⟩

/-- Each number is what the value of some definition is read as. -/
theorem Sound.definition_of_mem {names : List String} {taken numbers : List CallNumber}
    {definitions : List Definition} (h : Sound names taken definitions numbers)
    {number : CallNumber} (hmem : number ∈ numbers) :
    ∃ definition ∈ definitions, Numeral.read definition.value = .ok number := by
  obtain ⟨i, hi, rfl⟩ := List.mem_iff_getElem.1 hmem
  have hdefinition : i < definitions.length := h.read.length_eq ▸ hi
  exact ⟨_, List.getElem_mem hdefinition, h.read.get hdefinition hi⟩

end Definition

namespace CallInfo

/-- Where no number stands twice, no entry hides another. -/
theorem find?_eq_some_iff {table : List CallInfo} (h : (table.map (·.number)).Nodup)
    {number : CallNumber} {info : CallInfo} :
    find? table number = some info ↔ info ∈ table ∧ info.number = number := by
  constructor
  · intro hfound
    have hnumber := List.find?_some (p := fun info : CallInfo => info.number == number) hfound
    exact ⟨List.mem_of_find?_eq_some hfound, eq_of_beq hnumber⟩
  · rintro ⟨hmem, rfl⟩
    cases hfound : find? table info.number with
    | none =>
      have hother := List.find?_eq_none.1 hfound info hmem
      exact absurd (beq_self_eq_true info.number) hother
    | some found =>
      have hnumber := List.find?_some (p := fun other : CallInfo => other.number == info.number)
        hfound
      rw [List.inj_on_of_nodup_map h (List.mem_of_find?_eq_some hfound) hmem (eq_of_beq hnumber)]

theorem find?_eq_none_iff {table : List CallInfo} {number : CallNumber} :
    find? table number = none ↔ ∀ info ∈ table, info.number ≠ number := by
  rw [find?, List.find?_eq_none]
  simp only [beq_iff_eq, ne_eq]

/-- Where no number and no name stands twice, numbers with one name are one number. -/
theorem name_injective {table : List CallInfo} (hnumbers : (table.map (·.number)).Nodup)
    (hnames : (table.map (·.name)).Nodup) {one other : CallNumber} {name : String}
    (hone : (find? table one).map (·.name) = some name)
    (hother : (find? table other).map (·.name) = some name) : one = other := by
  obtain ⟨first, hfirst, hname⟩ := Option.map_eq_some_iff.1 hone
  obtain ⟨second, hsecond, hsame⟩ := Option.map_eq_some_iff.1 hother
  obtain ⟨hentry, rfl⟩ := (find?_eq_some_iff hnumbers).1 hfirst
  obtain ⟨hanother, rfl⟩ := (find?_eq_some_iff hnumbers).1 hsecond
  rw [List.inj_on_of_nodup_map hnames hentry hanother (hname.trans hsame.symm)]

end CallInfo

namespace Source

/-- Each definition with its own number. -/
def table (definitions : List Definition) (numbers : List CallNumber) : List CallInfo :=
  List.zipWith (fun definition number => ⟨number, definition.name, definition.description⟩)
    definitions numbers

/-- Nothing of the definitions is lost in the table or confused: it has an entry for each one, in
order, with the number that the value is read as, the search for that number finds this entry, the
search for any other number finds none, and no name belongs to two numbers. -/
structure Faithful (definitions : List Definition) (table : List CallInfo) : Prop where
  length : table.length = definitions.length
  entry : ∀ (i : Nat) (definition : Definition), definitions[i]? = some definition →
    ∃ number, Numeral.read definition.value = .ok number ∧
      table[i]? = some ⟨number, definition.name, definition.description⟩ ∧
      CallInfo.find? table number = some ⟨number, definition.name, definition.description⟩
  missing : ∀ number, (∀ definition ∈ definitions, Numeral.read definition.value ≠ .ok number) →
    CallInfo.find? table number = none
  injective : ∀ one other name, (CallInfo.find? table one).map (·.name) = some name →
    (CallInfo.find? table other).map (·.name) = some name → one = other

/-- The lines of the definitions declare each one's own constant, and nothing twice. -/
def Undisturbed (definitions : List Definition) (numbers : List CallNumber) : Prop :=
  ∃ declared, declared? definitions numbers = some declared ∧ Distinct declared ∧
    ∀ pair ∈ definitions.zip numbers, (pair.1.name, pair.2) ∈ declared

/-- The name is free for a constant, and the description is one line that can stand in a comment. -/
def Plain (definition : Definition) : Prop :=
  isName definition.name = true ∧ definition.name ∉ occupied ∧
    '\n' ∉ definition.description.toList ∧ '\r' ∉ definition.description.toList.dropLast

instance (definition : Definition) : Decidable (Plain definition) :=
  inferInstanceAs (Decidable (_ ∧ _))

/-- Numbers beside the definitions do not matter to what is taken from the definitions. -/
theorem map_zip_numbers {α : Type} {definitions : List Definition} {numbers : List CallNumber}
    (h : numbers.length = definitions.length) (field : Definition → α) :
    (definitions.zip numbers).map (fun pair => field pair.1) = definitions.map field :=
  calc (definitions.zip numbers).map (fun pair => field pair.1)
    _ = ((definitions.zip numbers).map Prod.fst).map field := List.map_map.symm
    _ = definitions.map field := by rw [List.map_fst_zip (Nat.le_of_eq h.symm)]

theorem map_name_table {definitions : List Definition} {numbers : List CallNumber}
    (h : numbers.length = definitions.length) :
    (table definitions numbers).map (·.name) = definitions.map (·.name) := by
  rw [table, List.map_zipWith, ← List.map_uncurry_zip_eq_zipWith]
  exact map_zip_numbers h (·.name)

theorem map_number_table {definitions : List Definition} {numbers : List CallNumber}
    (h : numbers.length = definitions.length) :
    (table definitions numbers).map (·.number) = numbers := by
  rw [table, List.map_zipWith, ← List.map_uncurry_zip_eq_zipWith]
  exact List.map_snd_zip (Nat.le_of_eq h)

theorem length_table {definitions : List Definition} {numbers : List CallNumber}
    (h : numbers.length = definitions.length) :
    (table definitions numbers).length = definitions.length := by
  rw [table, List.length_zipWith, h, Nat.min_self]

theorem getElem?_table {definitions : List Definition} {numbers : List CallNumber} {i : Nat}
    {definition : Definition} {number : CallNumber} (hdefinition : definitions[i]? = some definition)
    (hnumber : numbers[i]? = some number) :
    (table definitions numbers)[i]? =
      some ⟨number, definition.name, definition.description⟩ := by
  rw [table, List.getElem?_zipWith, hdefinition, hnumber]

/-- Where no name stands twice, no constant hides another. -/
theorem lookup_eq_some_iff {declared : List (String × CallNumber)}
    (h : (declared.map Prod.fst).Nodup) {name : String} {number : CallNumber} :
    declared.lookup name = some number ↔ (name, number) ∈ declared := by
  induction declared with
  | nil => simp
  | cons first declared ih =>
    obtain ⟨other, another⟩ := first
    rw [List.map_cons, List.nodup_cons] at h
    rw [List.lookup_cons, List.mem_cons, Prod.mk.injEq]
    by_cases hname : name = other
    · subst hname
      have hnot : (name, number) ∉ declared :=
        fun hmem => h.1 (List.mem_map.2 ⟨(name, number), hmem, rfl⟩)
      simp [hnot, eq_comm]
    · rw [beq_eq_false_iff_ne.2 hname]
      simp [hname, ih h.2]

theorem resolve_row_eq_some_iff {declared : List (String × CallNumber)} {definition : Definition}
    {info : CallInfo} :
    resolve declared (row definition) = some info ↔
      ∃ number, declared.lookup definition.name = some number ∧
        ⟨number, definition.name, definition.description⟩ = info := by
  simp [resolve, row, Option.bind_eq_some_iff]

/-- The entries stand for the definitions just if their constants are declared with their numbers.
-/
theorem mapM_resolve_eq_some_iff {declared : List (String × CallNumber)}
    {definitions : List Definition} {numbers : List CallNumber}
    (hlength : numbers.length = definitions.length) :
    (definitions.map row).mapM (resolve declared) = some (table definitions numbers) ↔
      ∀ pair ∈ definitions.zip numbers, declared.lookup pair.1.name = some pair.2 := by
  rw [mapM_eq_some_iff]
  induction definitions generalizing numbers with
  | nil => simp [table]
  | cons definition definitions ih =>
    cases numbers with
    | nil => cases hlength
    | cons number numbers =>
      have hone : resolve declared (row definition) =
          some ⟨number, definition.name, definition.description⟩ ↔
            declared.lookup definition.name = some number := by
        simp [resolve_row_eq_some_iff]
      rw [table, List.zipWith_cons_cons, List.zip_cons_cons, List.forall_mem_cons, ← hone,
        ← ih (Nat.succ.inj hlength)]
      exact List.cons_eq_cons

/-- Whatever numbers the constants have, each entry is about its definition and has the number of
the constant with its name. -/
theorem get_of_mapM_resolve {declared : List (String × CallNumber)}
    {definitions : List Definition} {table : List CallInfo}
    (h : (definitions.map row).mapM (resolve declared) = some table) {i : Nat}
    {definition : Definition} (hdefinition : definitions[i]? = some definition) :
    ∃ number, declared.lookup definition.name = some number ∧
      table[i]? = some ⟨number, definition.name, definition.description⟩ := by
  have hget := congrArg (fun entries => entries[i]?) (mapM_eq_some_iff.1 h)
  simp only [List.getElem?_map, hdefinition, Option.map_some] at hget
  obtain ⟨info, hinfo, hresolve⟩ := Option.map_eq_some_iff.1 hget.symm
  obtain ⟨number, hnumber, rfl⟩ := resolve_row_eq_some_iff.1 hresolve.symm
  exact ⟨number, hnumber, hinfo⟩

/-- With their own numbers the definitions lose nothing: no entry hides another. -/
theorem faithful_table {definitions : List Definition} {numbers : List CallNumber}
    (hvalid : Definition.validate definitions = .ok numbers) :
    Faithful definitions (table definitions numbers) := by
  have hsound := Definition.sound_of_judgeAll hvalid
  have hlength := Definition.judgeAll_length hvalid
  have hnames := map_name_table hlength
  have hnumbers := map_number_table hlength
  have hunique : ((table definitions numbers).map (·.number)).Nodup :=
    hnumbers.symm ▸ hsound.numbersApart
  refine ⟨length_table hlength, ?_, ?_, ?_⟩
  · intro i definition hdefinition
    obtain ⟨number, hnumber, hread⟩ := hsound.number_of_get hdefinition
    have hget := getElem?_table hdefinition hnumber
    exact ⟨number, hread, hget,
      (CallInfo.find?_eq_some_iff hunique).2 ⟨List.mem_of_getElem? hget, rfl⟩⟩
  · intro number hunread
    refine CallInfo.find?_eq_none_iff.2 fun info hinfo hnumber => ?_
    have hmem : number ∈ numbers := hnumbers ▸ hnumber ▸ List.mem_map_of_mem hinfo
    obtain ⟨definition, hdefinition, hread⟩ := hsound.definition_of_mem hmem
    exact hunread definition hdefinition hread
  · intro one other name
    exact CallInfo.name_injective hunique (hnames.symm ▸ hsound.namesApart)

theorem faithful_iff {definitions : List Definition} {numbers : List CallNumber}
    (hvalid : Definition.validate definitions = .ok numbers) {entries : List CallInfo} :
    Faithful definitions entries ↔ entries = table definitions numbers := by
  refine ⟨fun hfaithful => ?_, fun h => h ▸ faithful_table hvalid⟩
  have hsound := Definition.sound_of_judgeAll hvalid
  have hlength := length_table (Definition.judgeAll_length hvalid)
  refine List.ext_getElem? fun i => ?_
  cases hdefinition : definitions[i]? with
  | none =>
    have hi := List.getElem?_eq_none_iff.1 hdefinition
    rw [List.getElem?_eq_none (hfaithful.length.symm ▸ hi),
      List.getElem?_eq_none (hlength.symm ▸ hi)]
  | some definition =>
    obtain ⟨number, hnumber, hread⟩ := hsound.number_of_get hdefinition
    obtain ⟨other, hother, hget, -⟩ := hfaithful.entry i definition hdefinition
    obtain rfl := Except.ok.inj (hother.symm.trans hread)
    rw [hget, getElem?_table hdefinition hnumber]

/-- A plain description brings in nothing and takes nothing away. -/
theorem declaredBy_of_plain {definition : Definition} (h : definition.identified = true)
    (hplain : Plain definition) (number : CallNumber) :
    declaredBy definition number = some [(definition.name, number)] := by
  obtain ⟨hname, -, hbreak, hreturn⟩ := hplain
  have hmarker : "/// ".toList = ['/', '/', '/', ' '] := by decide
  have hlast : '\r' ∉ ("/// ".toList ++ definition.description.toList).dropLast := by
    rw [List.dropLast_append]
    split
    · decide
    · rw [List.mem_append]
      exact fun hmem => hmem.elim (by decide) hreturn
  have hcomment : isComment ("/// " ++ definition.description) = true := by
    rw [isComment, begins, begins, String.toList_append, Bool.and_eq_true, Bool.and_eq_true]
    refine ⟨⟨by rw [hmarker]; rfl, by rw [hmarker]; rfl⟩, ?_⟩
    rw [Bool.not_eq_true', List.contains_eq_mem, decide_eq_false hlast]
  have hdocumentation : declare false (documentation definition) = some ([], false) := by
    rw [documentation_of_unbroken hbreak, declare, readItem, if_pos (.inr hcomment)]
    rfl
  rw [declaredBy, declare_block h, hdocumentation]
  simp [hname]

theorem undisturbed_of_plain {definitions : List Definition} {numbers : List CallNumber}
    (hvalid : Definition.validate definitions = .ok numbers)
    (hnames : ∀ definition ∈ definitions, definition.identified = true)
    (hplain : ∀ definition ∈ definitions, Plain definition) : Undisturbed definitions numbers := by
  have hlength := Definition.judgeAll_length hvalid
  have hdeclared : declared? definitions numbers =
      some ((definitions.zip numbers).map fun pair => (pair.1.name, pair.2)) := by
    have heach : (definitions.zip numbers).mapM (fun pair => declaredBy pair.1 pair.2) =
        some ((definitions.zip numbers).map fun pair => [(pair.1.name, pair.2)]) := by
      rw [mapM_eq_some_iff, List.map_map]
      refine List.map_congr_left fun pair hpair => ?_
      have hmem := (List.of_mem_zip hpair).1
      exact declaredBy_of_plain (hnames _ hmem) (hplain _ hmem) pair.2
    rw [declared?, heach, Option.map_some, ← List.flatMap_def, ← List.map_eq_flatMap]
  have hmap : ((definitions.zip numbers).map fun pair => (pair.1.name, pair.2)).map Prod.fst =
      definitions.map (·.name) := by
    rw [List.map_map]
    exact map_zip_numbers hlength (·.name)
  refine ⟨_, hdeclared, ⟨?_, ?_⟩, fun pair hpair => List.mem_map.2 ⟨pair, hpair, rfl⟩⟩
  · rw [hmap]
    exact (Definition.sound_of_judgeAll hvalid).namesApart
  · rw [hmap]
    intro name hname
    obtain ⟨definition, hmem, rfl⟩ := List.mem_map.1 hname
    exact (hplain definition hmem).2.1

end Source

/-- The source text of a sound list is read as a faithful table just if the lines of its definitions
declare their own constants, which they do where the names are free and no description holds a
break. Any table that it is read as has an entry for each definition, in order, with its name and
its description, and with the number that is declared under its name. -/
theorem generated_table_complete {definitions : List Definition} {numbers : List CallNumber}
    (hvalid : Definition.validate definitions = .ok numbers)
    (hnames : ∀ definition ∈ definitions, definition.identified = true) :
    let read := Source.readTable (Source.text definitions numbers)
    ((∃ table, read = some table ∧ Source.Faithful definitions table) ↔
      Source.Undisturbed definitions numbers) ∧
    ((∀ definition ∈ definitions, Source.Plain definition) →
      Source.Undisturbed definitions numbers) ∧
    (∀ table, read = some table → table.length = definitions.length ∧ ∃ declared,
      Source.declared? definitions numbers = some declared ∧
      ∀ (i : Nat) (definition : Definition), definitions[i]? = some definition →
        ∃ number, (definition.name, number) ∈ declared ∧
          table[i]? = some ⟨number, definition.name, definition.description⟩) := by
  intro read
  have hlength := Definition.judgeAll_length hvalid
  have hread : ∀ table, read = some table ↔ ∃ declared,
      Source.declared? definitions numbers = some declared ∧ Source.Distinct declared ∧
        (definitions.map Source.row).mapM (Source.resolve declared) = some table := by
    intro table
    rw [show read = _ from Source.readTable_text hnames numbers, Option.bind_eq_some_iff]
    simp only [Option.ite_none_right_eq_some]
  refine ⟨?_, Source.undisturbed_of_plain hvalid hnames, fun table htable => ?_⟩
  · have hfaithful : ∀ table, Source.Faithful definitions table ↔
        table = Source.table definitions numbers := fun table => Source.faithful_iff hvalid
    simp only [hfaithful, exists_eq_right, hread, Source.mapM_resolve_eq_some_iff hlength,
      Source.Undisturbed]
    refine exists_congr fun declared => and_congr_right fun _ => and_congr_right fun hdistinct => ?_
    simp only [Source.lookup_eq_some_iff hdistinct.1]
  · obtain ⟨declared, hdeclared, hdistinct, hentries⟩ := (hread table).1 htable
    have hcount := congrArg List.length (Source.mapM_eq_some_iff.1 hentries)
    simp only [List.length_map] at hcount
    refine ⟨hcount.symm, declared, hdeclared, fun i definition hdefinition => ?_⟩
    obtain ⟨number, hnumber, hget⟩ := Source.get_of_mapM_resolve hentries hdefinition
    exact ⟨number, (Source.lookup_eq_some_iff hdistinct.1).1 hnumber, hget⟩

/-- The definitions that the standard calls come from, each with its number as it is written. -/
def standardDefinitions : List Definition :=
  CallInfo.standard.map fun info => ⟨info.name, Hex.word info.number, info.description⟩

/-- Their text is read as the table of the standard calls. -/
theorem generated_table_complete_standard :
    Source.readTable (Source.text standardDefinitions (CallInfo.standard.map (·.number))) =
      some CallInfo.standard ∧
    CallInfo.find? CallInfo.standard 0x0f03 =
      some ⟨0x0f03, "CAP_HANDLE", "Get device platform handle by kind/role/index"⟩ ∧
    CallInfo.find? CallInfo.standard 0x0104 = none := by
  have hvalid : Definition.validate standardDefinitions =
      .ok (CallInfo.standard.map (·.number)) := by decide +kernel
  obtain ⟨hfaithful, hplain, -⟩ := generated_table_complete hvalid (by decide +kernel)
  obtain ⟨table, hread, htable⟩ := hfaithful.2 (hplain (by decide +kernel))
  obtain rfl : table = CallInfo.standard :=
    ((Source.faithful_iff hvalid).1 htable).trans (by decide +kernel)
  refine ⟨hread, ?_, htable.missing _ (by decide +kernel)⟩
  obtain ⟨number, hnumber, -, hinfo⟩ := htable.entry 29
    ⟨"CAP_HANDLE", "0x0f03", "Get device platform handle by kind/role/index"⟩ (by decide +kernel)
  obtain rfl : number = 0x0f03 := by
    have hword : Numeral.read "0x0f03" = .ok 0x0f03 := by decide
    exact Except.ok.inj (hnumber.symm.trans hword)
  exact hinfo

/-- A description that goes on with a constant of its definition's name and takes the definition's
own constant away. -/
def usurped : List Definition :=
  [⟨"LED_ON", "0x0100", "Turn LED on.\npub const LED_ON: u16 = 0x0999;\n#[cfg(any())]"⟩]

/-- A sound list of one definition whose table has one entry, of its name and its description, but
with the number that the description brings in. The search for its own number finds nothing. -/
theorem usurped_number_missing :
    Definition.validate usurped = .ok [0x0100] ∧
    (∀ definition ∈ usurped, definition.identified = true) ∧
    let table := usurped.map fun definition => ⟨0x0999, definition.name, definition.description⟩
    Source.readTable (Source.text usurped [0x0100]) = some table ∧
      CallInfo.find? table 0x0100 = none ∧ ¬ Source.Faithful usurped table := by
  have hvalid : Definition.validate usurped = .ok [0x0100] := by decide
  have hnames : ∀ definition ∈ usurped, definition.identified = true := by decide
  refine ⟨hvalid, hnames, ?_, by decide, fun hfaithful => ?_⟩
  · rw [Source.readTable_text hnames]
    decide +kernel
  · have hentries := (Source.faithful_iff hvalid).1 hfaithful
    exact absurd (congrArg (List.map (·.number)) hentries) (by decide)

end Switchboard
