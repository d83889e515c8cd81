import Switchboard.Proofs.TokenSpelling

/-!
# The spellings of a value

A value is spelled with white space wherever it may stand. Reading goes through two machines, the
one that makes tokens and the one that builds a value from them. What a text does to both is said
at once, wherever it stands: a number or a word at its end may still be open, but whatever closes
it is fed as if it had been closed before. An array and an object are read by the same loop, only
over other items.
-/
namespace Switchboard.Json

/-- White space that means nothing. -/
def Gap (text : List Char) : Prop := ∀ c ∈ text, c ∈ [' ', '\n', '\r', '\t']

instance (text : List Char) : Decidable (Gap text) := List.decidableBAll _ text

/-- Texts with a comma between each two. -/
def separated : List (List Char) → List Char
  | [] => []
  | first :: rest => first ++ rest.flatMap (',' :: ·)

/-- A member of an object, with how its key and its value are written. -/
structure Member where
  key : Option String
  keyText : List Char
  value : Value
  valueText : List Char

namespace Member

/-- The key with the white space around it. -/
def KeySpelled (member : Member) : Prop :=
  ∃ before key after, Gap before ∧ StringSpelled member.key key ∧ Gap after ∧
    member.keyText = before ++ (key ++ after)

def text (member : Member) : List Char := member.keyText ++ ':' :: member.valueText

def entry (member : Member) : Option String × Value := (member.key, member.value)

end Member

/-- The texts that a value can be written as. -/
inductive Value.Spelled : Value → List Char → Prop
  | null : Spelled .null "null".toList
  | boolean {value : Bool} : Spelled (.boolean value) (toString value).toList
  | number {digits : List Char} (h : Numeric digits) : Spelled (.number digits) digits
  | text {value : Option String} {text : List Char} (h : StringSpelled value text) :
      Spelled (.text value) text
  | array {gap : List Char} {items : List (Value × List Char)} (hgap : Gap gap)
      (hitems : ∀ item ∈ items, Spelled item.1 item.2) :
      Spelled (.array (items.map (·.1))) (('[' :: gap) ++ separated (items.map (·.2)) ++ [']'])
  | object {gap : List Char} {members : List Member} (hgap : Gap gap)
      (hkeys : ∀ member ∈ members, member.KeySpelled)
      (hvalues : ∀ member ∈ members, Spelled member.value member.valueText) :
      Spelled (.object (members.map (·.entry)))
        (('\x7b' :: gap) ++ separated (members.map (·.text)) ++ ['\x7d'])
  | padded {value : Value} {before text after : List Char} (hbefore : Gap before)
      (h : Spelled value text) (hafter : Gap after) : Spelled value (before ++ (text ++ after))

/-- A text whose tokens take the build from one state to another, wherever the text stands. What
may be open at its end is left to a condition. -/
def Passes (ends : Scan → List Token → Prop) (text : List Char) (build result : Build) : Prop :=
  ∃ tokens : List Token,
    (∀ earlier, ∃ scan, text.foldlM Scan.feed ⟨.between, earlier⟩ = some scan ∧
      ends scan (tokens.reverse ++ earlier)) ∧
    tokens.foldlM Build.feed build = some result

/-- A number or a word may be open at the end. -/
abbrev Leads : List Char → Build → Build → Prop := Passes Scan.Settles

/-- Nothing is open at the end. -/
abbrev Stops : List Char → Build → Build → Prop :=
  Passes fun scan tokens => scan = ⟨.between, tokens⟩

/-- A character that closes what is open and yields these tokens by itself. -/
structure Closing (c : Char) (tokens : List Token) : Prop where
  number : isNumberChar c = false
  letter : isLetter c = false
  start : ∀ earlier, Scan.start ⟨.between, earlier⟩ c = some ⟨.between, tokens.reverse ++ earlier⟩

variable {build middle result : Build} {text other blanks : List Char} {c : Char}
  {tokens : List Token} {ends : Scan → List Token → Prop}

theorem closing_gap (h : c ∈ [' ', '\n', '\r', '\t']) : Closing c [] := by
  simp only [List.mem_cons, List.not_mem_nil, or_false] at h
  rcases h with rfl | rfl | rfl | rfl <;> exact ⟨rfl, rfl, fun _ => rfl⟩

theorem Passes.leads (h : Stops text build result) : Leads text build result := by
  obtain ⟨tokens, hscan, hbuild⟩ := h
  refine ⟨tokens, fun earlier => ?_, hbuild⟩
  obtain ⟨scan, htext, rfl⟩ := hscan earlier
  exact ⟨_, htext, Scan.settles_between _⟩

theorem Passes.append (h : Stops text build middle) (hother : Passes ends other middle result) :
    Passes ends (text ++ other) build result := by
  obtain ⟨tokens, hscan, hbuild⟩ := h
  obtain ⟨others, hscanOther, hbuildOther⟩ := hother
  refine ⟨tokens ++ others, fun earlier => ?_, ?_⟩
  · obtain ⟨scan, htext, rfl⟩ := hscan earlier
    rw [List.foldlM_append, htext, List.reverse_append, List.append_assoc]
    exact hscanOther _
  · rw [List.foldlM_append, hbuild]
    exact hbuildOther

/-- A closing character finds the scan as if nothing had been open. -/
theorem Passes.close (h : Leads text build middle) (hc : Closing c tokens)
    (hfeed : tokens.foldlM Build.feed middle = some result) : Stops (text ++ [c]) build result := by
  obtain ⟨earlierTokens, hscan, hbuild⟩ := h
  refine ⟨earlierTokens ++ tokens, fun earlier => ⟨_, ?_, rfl⟩, ?_⟩
  · obtain ⟨scan, htext, hsettles⟩ := hscan earlier
    have hone : [c].foldlM Scan.feed scan =
        some ⟨.between, tokens.reverse ++ (earlierTokens.reverse ++ earlier)⟩ := by
      rw [List.foldlM_cons, hsettles.feed c hc.number hc.letter, hc.start]
      rfl
    rw [List.foldlM_append, htext, List.reverse_append, List.append_assoc]
    exact hone
  · rw [List.foldlM_append, hbuild]
    exact hfeed

theorem foldlM_singleton (build : Build) (token : Token) :
    [token].foldlM Build.feed build = build.feed token := by
  rw [List.foldlM_cons]
  cases build.feed token <;> rfl

theorem stops_nil (build : Build) : Stops [] build build := ⟨[], fun _ => ⟨_, rfl, rfl⟩, rfl⟩

theorem stops_of_closing (hc : Closing c tokens)
    (hfeed : tokens.foldlM Build.feed build = some result) : Stops [c] build result :=
  (stops_nil build).leads.close hc hfeed

theorem Gap.stops (h : Gap blanks) (build : Build) : Stops blanks build build := by
  induction blanks with
  | nil => exact stops_nil build
  | cons c blanks ih =>
    obtain ⟨hc, hgap⟩ := List.forall_mem_cons.1 h
    exact (stops_of_closing (closing_gap hc) rfl).append (ih hgap)

/-- White space closes what is open, and none leaves it open. -/
theorem Passes.gap (h : Leads text build result) (hgap : Gap blanks) :
    Leads (text ++ blanks) build result := by
  cases blanks with
  | nil => rwa [List.append_nil]
  | cons c blanks =>
    obtain ⟨hc, hrest⟩ := List.forall_mem_cons.1 hgap
    rw [List.append_cons]
    exact (h.close (closing_gap hc) rfl).append (Gap.stops hrest _).leads

/-- Items are read one after the other, each with a comma before it. The build is in a state
`done` behind items and in a state `next` behind a comma. -/
theorem Passes.commas {α : Type} {spelled : α → List Char} {done next : List α → Build}
    (hcomma : ∀ items, (done items).feed .comma = some (next items)) {rest : List α}
    (hrest : ∀ item ∈ rest, ∀ items, Leads (spelled item) (next items) (done (item :: items)))
    {items : List α} (h : Leads text build (done items)) :
    Leads (text ++ rest.flatMap fun item => ',' :: spelled item) build
      (done (rest.reverse ++ items)) := by
  induction rest generalizing text items with
  | nil => rwa [List.flatMap_nil, List.append_nil]
  | cons item rest ih =>
    obtain ⟨hitem, hothers⟩ := List.forall_mem_cons.1 hrest
    have hclosing : Closing ',' [.comma] := ⟨rfl, rfl, fun _ => rfl⟩
    have hnext : Stops (text ++ [',']) build (next items) :=
      h.close hclosing ((foldlM_singleton ..).trans (hcomma items))
    have hlater := ih hothers (hnext.append (hitem items))
    rw [List.flatMap_cons, List.reverse_cons, List.append_assoc, List.singleton_append]
    rw [List.append_assoc, List.append_assoc] at hlater
    exact hlater

/-- What is between two brackets: nothing, or items with commas between them. -/
theorem stops_container {α : Type} {spelled : α → List Char} (done next : List α → Build)
    {opened : Build} {opener : List Char} {closer : Char} {token : Token} {items : List α}
    (hopen : Stops opener build opened) (hclosing : Closing closer [token])
    (hcomma : ∀ before, (done before).feed .comma = some (next before))
    (hfirst : ∀ item ∈ items, Leads (spelled item) opened (done [item]))
    (hrest : ∀ item ∈ items, ∀ before,
      Leads (spelled item) (next before) (done (item :: before)))
    (hnone : items = [] → opened.feed token = some result)
    (hsome : items ≠ [] → (done items.reverse).feed token = some result) :
    Stops (opener ++ separated (items.map spelled) ++ [closer]) build result := by
  cases items with
  | nil =>
    rw [List.map_nil, separated, List.append_nil]
    exact hopen.leads.close hclosing ((foldlM_singleton ..).trans (hnone rfl))
  | cons first rest =>
    have hone := hopen.append (hfirst first List.mem_cons_self)
    have hall := hone.commas hcomma fun item hitem => hrest item (List.mem_cons_of_mem _ hitem)
    rw [← List.reverse_cons] at hall
    rw [List.map_cons, separated, List.flatMap_map, ← List.append_assoc]
    exact hall.close hclosing ((foldlM_singleton ..).trans (hsome nofun))

section Values

variable {entered : List Open} {awaiting : Awaiting} {value : Value}

/-- Where a value may come next, its first token begins it. -/
theorem foldlM_begin (hawaiting : awaiting = .value ∨ awaiting = .itemOrEnd) (token : Token)
    (htoken : token ≠ .endArray) :
    [token].foldlM Build.feed ⟨entered, awaiting⟩ = Build.begin entered token := by
  rw [foldlM_singleton]
  rcases hawaiting with rfl | rfl
  · rfl
  · exact if_neg htoken

/-- A member is read where a key may come next. -/
theorem leads_member {member : Member} {members : List (Option String × Value)}
    (hawaiting : awaiting = .key ∨ awaiting = .keyOrEnd) (hkey : member.KeySpelled)
    (hvalue : Leads member.valueText ⟨.member members member.key :: entered, .value⟩
      ⟨.object (member.entry :: members) :: entered, .commaOrEnd⟩) :
    Leads member.text ⟨.object members :: entered, awaiting⟩
      ⟨.object (member.entry :: members) :: entered, .commaOrEnd⟩ := by
  obtain ⟨before, key, after, hbefore, hkey, hafter, htext⟩ := hkey
  have hfeed : Build.feed ⟨.object members :: entered, awaiting⟩ (.text member.key) =
      some ⟨.object members :: entered, .colon member.key⟩ := by
    rcases hawaiting with rfl | rfl <;> rfl
  have hstring : Stops key ⟨.object members :: entered, awaiting⟩
      ⟨.object members :: entered, .colon member.key⟩ :=
    ⟨[.text member.key], fun earlier => ⟨_, Draft.foldlM_string hkey earlier, rfl⟩,
      (foldlM_singleton ..).trans hfeed⟩
  have hcolon : Closing ':' [.colon] := ⟨rfl, rfl, fun _ => rfl⟩
  have hpadded := (((hbefore.stops _).append hstring).append (hafter.stops _)).leads
  have hall := (hpadded.close hcolon (foldlM_singleton ..)).append hvalue
  rw [Member.text, htext]
  simpa only [List.append_assoc, List.singleton_append] using hall

/-- An array is read if its items are, behind its opening bracket and behind a comma. -/
theorem stops_array {gap : List Char} {items : List (Value × List Char)}
    (hawaiting : awaiting = .value ∨ awaiting = .itemOrEnd) (hgap : Gap gap)
    (hitems : ∀ item ∈ items, ∀ before awaiting, awaiting = .value ∨ awaiting = .itemOrEnd →
      Leads item.2 ⟨.array before :: entered, awaiting⟩
        ⟨.array (item.1 :: before) :: entered, .commaOrEnd⟩)
    (hput : Build.put entered (.array (items.map (·.1))) = some result) :
    Stops (('[' :: gap) ++ separated (items.map (·.2)) ++ [']']) ⟨entered, awaiting⟩ result := by
  have hopening : Closing '[' [.beginArray] := ⟨rfl, rfl, fun _ => rfl⟩
  have hclosing : Closing ']' [.endArray] := ⟨rfl, rfl, fun _ => rfl⟩
  have hopen : Stops ('[' :: gap) ⟨entered, awaiting⟩ ⟨.array [] :: entered, .itemOrEnd⟩ :=
    (stops_of_closing hopening (foldlM_begin hawaiting _ nofun)).append (hgap.stops _)
  let state (awaiting : Awaiting) (before : List (Value × List Char)) : Build :=
    ⟨.array (before.map (·.1)) :: entered, awaiting⟩
  have hleave : (state .commaOrEnd items.reverse).feed .endArray = some result := by
    rw [← hput, ← List.reverse_reverse (items.map (·.1)), ← List.map_reverse]
    rfl
  have hempty : items = [] → Build.feed ⟨.array [] :: entered, .itemOrEnd⟩ .endArray =
      some result := by
    rintro rfl
    exact hput
  exact stops_container (state .commaOrEnd) (state .value) hopen hclosing (fun _ => rfl)
    (fun item h => hitems item h [] .itemOrEnd (.inr rfl))
    (fun item h before => hitems item h (before.map (·.1)) .value (.inl rfl)) hempty
    fun _ => hleave

/-- An object is read if its values are, each behind its key. -/
theorem stops_object {gap : List Char} {members : List Member}
    (hawaiting : awaiting = .value ∨ awaiting = .itemOrEnd) (hgap : Gap gap)
    (hkeys : ∀ member ∈ members, member.KeySpelled)
    (hvalues : ∀ member ∈ members, ∀ before,
      Leads member.valueText ⟨.member before member.key :: entered, .value⟩
        ⟨.object (member.entry :: before) :: entered, .commaOrEnd⟩)
    (hput : Build.put entered (.object (members.map (·.entry))) = some result) :
    Stops (('\x7b' :: gap) ++ separated (members.map (·.text)) ++ ['\x7d'])
      ⟨entered, awaiting⟩ result := by
  have hopening : Closing '\x7b' [.beginObject] := ⟨rfl, rfl, fun _ => rfl⟩
  have hclosing : Closing '\x7d' [.endObject] := ⟨rfl, rfl, fun _ => rfl⟩
  have hopen : Stops ('\x7b' :: gap) ⟨entered, awaiting⟩ ⟨.object [] :: entered, .keyOrEnd⟩ :=
    (stops_of_closing hopening (foldlM_begin hawaiting _ nofun)).append (hgap.stops _)
  let state (awaiting : Awaiting) (before : List Member) : Build :=
    ⟨.object (before.map (·.entry)) :: entered, awaiting⟩
  have hleave : (state .commaOrEnd members.reverse).feed .endObject = some result := by
    rw [← hput, ← List.reverse_reverse (members.map (·.entry)), ← List.map_reverse]
    rfl
  have hempty : members = [] → Build.feed ⟨.object [] :: entered, .keyOrEnd⟩ .endObject =
      some result := by
    rintro rfl
    exact hput
  have hmember : ∀ member ∈ members, ∀ before awaiting, awaiting = .key ∨ awaiting = .keyOrEnd →
      Leads member.text (state awaiting before) (state .commaOrEnd (member :: before)) :=
    fun member h before awaiting hawaiting =>
      leads_member hawaiting (hkeys member h) (hvalues member h (before.map (·.entry)))
  exact stops_container (state .commaOrEnd) (state .key) hopen hclosing (fun _ => rfl)
    (fun member h => hmember member h [] .keyOrEnd (.inr rfl))
    (fun member h before => hmember member h before .key (.inl rfl)) hempty fun _ => hleave

/-- However a value is spelled, it is put where a value may come next. -/
theorem Value.Spelled.leads (h : Value.Spelled value text)
    (hawaiting : awaiting = .value ∨ awaiting = .itemOrEnd)
    (hput : Build.put entered value = some result) : Leads text ⟨entered, awaiting⟩ result := by
  induction h generalizing entered awaiting result with
  | null =>
    exact ⟨[.null], fun _ => Scan.settles_word rfl rfl,
      (foldlM_begin hawaiting .null nofun).trans hput⟩
  | @boolean value =>
    refine ⟨[.boolean value], fun _ => ?_,
      (foldlM_begin hawaiting (.boolean value) nofun).trans hput⟩
    cases value <;> exact Scan.settles_word rfl rfl
  | @number digits h =>
    exact ⟨[.number digits], Scan.settles_number h,
      (foldlM_begin hawaiting (.number digits) nofun).trans hput⟩
  | @text value text h =>
    have hstring : Stops text ⟨entered, awaiting⟩ result :=
      ⟨[.text value], fun earlier => ⟨_, Draft.foldlM_string h earlier, rfl⟩,
        (foldlM_begin hawaiting (.text value) nofun).trans hput⟩
    exact hstring.leads
  | array hgap _ ih =>
    exact (stops_array hawaiting hgap (fun item h _ _ hawaiting => ih item h hawaiting rfl)
      hput).leads
  | object hgap hkeys _ ih =>
    exact (stops_object hawaiting hgap hkeys (fun member h _ => ih member h (.inl rfl) rfl)
      hput).leads
  | padded hbefore h hafter ih =>
    have hall := ((hbefore.stops _).append (ih hawaiting hput)).gap hafter
    rwa [List.append_assoc] at hall

/-- Every spelling of a value is read as that value. -/
theorem Value.Spelled.read_eq {text : String} (h : Value.Spelled value text.toList) :
    Value.read text = some value := by
  have hput : Build.put [] value = some ⟨[], .nothing value⟩ := rfl
  obtain ⟨read, hscan, hbuild⟩ := h.leads (.inl rfl) hput
  obtain ⟨scan, htext, hsettles⟩ := hscan []
  have htokens : tokens text.toList = some read := by
    rw [tokens, htext, Option.bind_some, Scan.finish, hsettles.close]
    simp
  rw [Value.read, htokens, Option.bind_eq_bind, Option.bind_some, Value.ofTokens?, hbuild]
  rfl

end Values

end Switchboard.Json
