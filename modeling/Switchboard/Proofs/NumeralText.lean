import Mathlib.Data.List.TakeWhile
import Mathlib.Data.Nat.Digits.Defs
import Switchboard.Call.Numeral

/-!
# What a numeral says

Which texts are numerals is said here without reading them from left to right. The blanks at both
ends go first, then the markers in front, then the underscores, and this order matters: a marker
behind an underscore stays, and a sign behind a marker comes to the front. What is left is worth
the sum of its digits by their places. If it is no numeral, its longest run of digits in front
tells the error, since a number that is too large stays so whatever comes behind.
-/
namespace Switchboard

namespace Numeral

/-- The inner part is the text without the blanks at its ends. -/
structure Trimmed (text inner : List Char) : Prop where
  parts : ∃ before after, text = before ++ inner ++ after ∧
    (∀ c ∈ before, isBlank c = true) ∧ ∀ c ∈ after, isBlank c = true
  first : ∀ c ∈ inner.head?, isBlank c = false
  last : ∀ c ∈ inner.getLast?, isBlank c = false

/-- The rest is the text without the copies of the marker that stand in front. -/
structure Bared (text rest : List Char) : Prop where
  markers : ∃ n : Nat, text = (List.replicate n ['0', 'x']).flatten ++ rest
  bare : ¬ ['0', 'x'] <+: rest

/-- What is left of a text when it is cleaned in this order. -/
def Cleaned (text left : List Char) : Prop :=
  ∃ inner rest, Trimmed text inner ∧ Bared inner rest ∧ left = rest.filter (· ≠ '_')

/-- A digit in either case. -/
def isDigit (c : Char) : Bool := "0123456789abcdefABCDEF".toList.contains c

/-- The digits stand in the order of their worth. -/
def worth (c : Char) : Nat := "0123456789abcdef".toList.idxOf c.toLower

/-- What digits are worth by their places. -/
def value (digits : List Char) : Nat := Nat.ofDigits 16 (digits.reverse.map worth)

/-- A text without the plus sign that may stand first. -/
def unsigned : List Char → List Char
  | '+' :: rest => rest
  | text => text

/-- No blank comes first once the blanks in front are gone. -/
theorem first_dropWhile (text : List Char) :
    ∀ c ∈ (text.dropWhile isBlank).head?, isBlank c = false := by
  intro c hc
  have hfirst := List.head?_dropWhile_not isBlank text
  rw [Option.mem_def.1 hc] at hfirst
  exact hfirst

theorem dropWhile_blank {before rest : List Char} (hbefore : ∀ c ∈ before, isBlank c = true)
    (hrest : ∀ c ∈ rest.head?, isBlank c = false) :
    (before ++ rest).dropWhile isBlank = rest := by
  rw [List.dropWhile_append_of_pos hbefore]
  cases rest with
  | nil => rfl
  | cons c rest => exact List.dropWhile_cons_of_neg (by simp [hrest c rfl])

theorem trimmed_trimBlank (text : List Char) : Trimmed text (trimBlank text) := by
  let rest := text.dropWhile isBlank
  let after := (rest.reverse.takeWhile isBlank).reverse
  have hrest : rest = trimBlank text ++ after := by
    rw [trimBlank, ← List.reverse_append, List.takeWhile_append_dropWhile, List.reverse_reverse]
  have htext : text = text.takeWhile isBlank ++ rest := List.takeWhile_append_dropWhile.symm
  refine ⟨⟨text.takeWhile isBlank, after, ?_, ?_, ?_⟩, ?_, ?_⟩
  · rw [List.append_assoc, ← hrest, ← htext]
  · exact fun c hc => List.mem_takeWhile_imp hc
  · exact fun c hc => List.mem_takeWhile_imp (List.mem_reverse.1 hc)
  · intro c hc
    refine first_dropWhile text c ?_
    change c ∈ rest.head?
    rw [hrest, List.head?_append, Option.mem_def.1 hc]
    rfl
  · intro c hc
    rw [trimBlank, List.getLast?_reverse] at hc
    exact first_dropWhile _ c hc

theorem trimmed_iff (text inner : List Char) : Trimmed text inner ↔ inner = trimBlank text := by
  constructor
  · rintro ⟨⟨before, after, rfl, hbefore, hafter⟩, hfirst, hlast⟩
    have hreversed : (inner ++ after).reverse.dropWhile isBlank = inner.reverse := by
      rw [List.reverse_append]
      refine dropWhile_blank (fun c hc => hafter c (List.mem_reverse.1 hc)) ?_
      rw [List.head?_reverse]
      exact hlast
    have hfront : (before ++ (inner ++ after)).dropWhile isBlank =
        (inner ++ after).dropWhile isBlank := List.dropWhile_append_of_pos hbefore
    cases inner with
    | nil =>
      have hnone : after.dropWhile isBlank = [] := List.dropWhile_eq_nil_iff.2 hafter
      rw [trimBlank, List.append_assoc, hfront, List.nil_append, hnone]
      rfl
    | cons c inner =>
      have hkept : (c :: inner ++ after).dropWhile isBlank = c :: inner ++ after :=
        List.dropWhile_cons_of_neg (by simp [hfirst c rfl])
      rw [trimBlank, List.append_assoc, hfront, hkept, hreversed, List.reverse_reverse]
  · rintro rfl
    exact trimmed_trimBlank text

theorem bared_iff (text rest : List Char) : Bared text rest ↔ rest = dropMarkers text := by
  fun_induction dropMarkers text with
  | case1 text ih =>
    rw [← ih]
    constructor
    · rintro ⟨⟨n, hmarkers⟩, hbare⟩
      cases n with
      | zero => exact absurd ⟨text, hmarkers⟩ hbare
      | succ n =>
        rw [List.replicate_succ, List.flatten_cons, List.append_assoc] at hmarkers
        have hrest := (List.cons.inj (List.cons.inj hmarkers).2).2
        exact ⟨⟨n, hrest⟩, hbare⟩
    · rintro ⟨⟨n, rfl⟩, hbare⟩
      exact ⟨⟨n + 1, rfl⟩, hbare⟩
  | case2 text hbare =>
    constructor
    · rintro ⟨⟨n, hmarkers⟩, -⟩
      cases n with
      | zero => exact hmarkers.symm
      | succ n => exact absurd hmarkers (hbare _)
    · rintro rfl
      refine ⟨⟨0, rfl⟩, ?_⟩
      rintro ⟨rest, hrest⟩
      exact hbare rest hrest.symm

/-- There is one way to clean a text. -/
theorem cleaned_iff (text left : List Char) : Cleaned text left ↔ left = clean text := by
  constructor
  · rintro ⟨inner, rest, hinner, hrest, rfl⟩
    rw [(bared_iff inner rest).1 hrest, (trimmed_iff text inner).1 hinner, clean]
  · rintro rfl
    exact ⟨_, _, (trimmed_iff text _).2 rfl, (bared_iff _ _).2 rfl, rfl⟩

theorem digit?_eq (c : Char) : Hex.digit? c = if isDigit c then some (worth c) else none := by
  have hlow : ∀ n < 128, Hex.digit? (Char.ofNat n) =
      if isDigit (Char.ofNat n) then some (worth (Char.ofNat n)) else none := by decide +kernel
  by_cases h : c.toNat < 128
  · rw [← Char.ofNat_toNat c]
    exact hlow _ h
  · have hdigits : "0123456789abcdefABCDEF".toList.all (·.toNat < 128) = true := by decide
    have hnone : isDigit c = false := by
      rw [isDigit, List.contains_eq_mem, decide_eq_false_iff_not]
      exact fun hc => h (of_decide_eq_true (List.all_eq_true.1 hdigits c hc))
    have hbeyond : ∀ d : Char, d.toNat < 128 → ¬ c ≤ d := by
      intro d hd hc
      have hle : c.toNat ≤ d.toNat := UInt32.le_iff_toNat_le.1 (Char.le_def.1 hc)
      omega
    rw [hnone, Hex.digit?, if_neg fun hc => hbeyond '9' (by decide) hc.2,
      if_neg fun hc => hbeyond 'f' (by decide) hc.2, if_neg fun hc => hbeyond 'F' (by decide) hc.2]
    rfl

/-- A digit in front counts for as many places as there are digits behind it. -/
theorem value_cons (c : Char) (rest : List Char) :
    value (c :: rest) = worth c * 16 ^ rest.length + value rest := by
  rw [value, List.reverse_cons, List.map_append, Nat.ofDigits_append, List.length_map,
    List.length_reverse, value, List.map_singleton, Nat.ofDigits_singleton]
  ring

/-- What digits are worth behind others that are worth `before`. -/
def valueAfter (before : Nat) (digits : List Char) : Nat :=
  before * 16 ^ digits.length + value digits

theorem valueAfter_cons (before : Nat) (c : Char) (rest : List Char) :
    valueAfter before (c :: rest) = valueAfter (before * 16 + worth c) rest := by
  rw [valueAfter, value_cons, List.length_cons, valueAfter]
  ring

@[simp] theorem valueAfter_nil (before : Nat) : valueAfter before [] = before := by
  simp [valueAfter, value]

@[simp] theorem valueAfter_zero (digits : List Char) : valueAfter 0 digits = value digits := by
  rw [valueAfter, Nat.zero_mul, Nat.zero_add]

theorem le_valueAfter (before : Nat) (digits : List Char) : before ≤ valueAfter before digits :=
  le_trans (Nat.le_mul_of_pos_right before (by positivity)) (Nat.le_add_right _ _)

/-- What comes of digits behind others that are worth `before`. -/
inductive Outcome (before : Nat) (text : List Char) : Except NumeralError Nat → Prop
  | fits (hall : text.all isDigit = true) (h : valueAfter before text < 65536) :
      Outcome before text (.ok (valueAfter before text))
  | tooLarge (h : 65536 ≤ valueAfter before (text.takeWhile isDigit)) :
      Outcome before text (.error .tooLarge)
  | invalidDigit (hsome : text.all isDigit = false)
      (h : valueAfter before (text.takeWhile isDigit) < 65536) :
      Outcome before text (.error .invalidDigit)

theorem outcome_cons {before : Nat} {c : Char} {rest : List Char} (hc : isDigit c = true)
    {found : Except NumeralError Nat} (h : Outcome (before * 16 + worth c) rest found) :
    Outcome before (c :: rest) found := by
  have hrun : (c :: rest).takeWhile isDigit = c :: rest.takeWhile isDigit :=
    List.takeWhile_cons_of_pos hc
  have hall : (c :: rest).all isDigit = rest.all isDigit := by
    rw [List.all_cons, hc, Bool.true_and]
  cases h with
  | fits hdigits h =>
    rw [← valueAfter_cons] at h ⊢
    exact .fits (hall.trans hdigits) h
  | tooLarge h =>
    rw [← valueAfter_cons, ← hrun] at h
    exact .tooLarge h
  | invalidDigit hsome h =>
    rw [← valueAfter_cons, ← hrun] at h
    exact .invalidDigit (hall.trans hsome) h

/-- Reading goes on while the digits so far fit. Once they do not, the run of digits is too large
whatever belongs to it. -/
theorem outcome_digits {before : Nat} (hbefore : before < 65536) (text : List Char) :
    Outcome before text (digits before text) := by
  induction text generalizing before with
  | nil =>
    have hfits : Outcome before [] (.ok (valueAfter before [])) :=
      .fits rfl (by simpa using hbefore)
    rwa [valueAfter_nil] at hfits
  | cons c rest ih =>
    rw [digits, digit?_eq]
    cases hc : isDigit c with
    | false =>
      have hrun : (c :: rest).takeWhile isDigit = [] :=
        List.takeWhile_cons_of_neg (by rw [hc]; exact Bool.false_ne_true)
      refine .invalidDigit ?_ ?_
      · rw [List.all_cons, hc, Bool.false_and]
      · rw [hrun, valueAfter_nil]
        exact hbefore
    | true =>
      simp only [↓reduceIte]
      split
      · rename_i hfits
        exact outcome_cons hc (ih hfits)
      · rename_i hlarge
        refine .tooLarge ?_
        rw [List.takeWhile_cons_of_pos hc, valueAfter_cons]
        exact le_trans (Nat.le_of_not_lt hlarge) (le_valueAfter _ _)

section Outcome

variable {text : List Char} {found : Except NumeralError Nat} (h : Outcome 0 text found)

include h in
theorem Outcome.eq_ok_iff (n : Nat) :
    found = .ok n ↔ (text.all isDigit = true ∧ value text ≤ 65535) ∧ value text = n := by
  cases h with
  | fits hall hfits =>
    rw [valueAfter_zero] at hfits ⊢
    rw [Except.ok.injEq]
    exact ⟨fun heq => ⟨⟨hall, by omega⟩, heq⟩, fun heq => heq.2⟩
  | tooLarge hlarge =>
    rw [valueAfter_zero] at hlarge
    constructor
    · intro heq
      cases heq
    · rintro ⟨⟨hall, hfits⟩, -⟩
      rw [List.takeWhile_eq_self_iff.2 (List.all_eq_true.1 hall)] at hlarge
      omega
  | invalidDigit hsome _ =>
    constructor
    · intro heq
      cases heq
    · rintro ⟨⟨hall, -⟩, -⟩
      rw [hall] at hsome
      cases hsome

include h in
theorem Outcome.eq_tooLarge_iff :
    found = .error .tooLarge ↔ 65535 < value (text.takeWhile isDigit) := by
  cases h with
  | fits hall hfits =>
    rw [valueAfter_zero] at hfits
    rw [List.takeWhile_eq_self_iff.2 (List.all_eq_true.1 hall)]
    constructor
    · intro heq
      cases heq
    · intro hlarge
      omega
  | tooLarge hlarge =>
    rw [valueAfter_zero] at hlarge
    exact ⟨fun _ => hlarge, fun _ => rfl⟩
  | invalidDigit _ hfits =>
    rw [valueAfter_zero] at hfits
    constructor
    · intro heq
      cases heq
    · intro hlarge
      omega

include h in
/-- There is no third error among digits. -/
theorem Outcome.eq_invalidDigit_iff : found = .error .invalidDigit ↔
    ¬ (text.all isDigit = true ∧ value text ≤ 65535) ∧
      ¬ 65535 < value (text.takeWhile isDigit) := by
  rw [← h.eq_tooLarge_iff]
  have hok := h.eq_ok_iff (value text)
  cases h with
  | fits hall hfits => simpa using hok
  | tooLarge _ => simp
  | invalidDigit _ _ => simpa using hok

end Outcome

/-- A sign is passed over if something stands behind it. -/
theorem unmarked_eq {left : List Char} (hsome : left ≠ []) (hsign : left ≠ ['+']) :
    unmarked left = digits 0 (unsigned left) := by
  unfold unmarked
  split
  · exact absurd rfl hsome
  · rfl
  · rename_i hnone hplus
    unfold unsigned
    split
    · rename_i rest
      cases rest with
      | nil => exact absurd rfl hsign
      | cons c rest => exact absurd rfl (hplus c rest)
    · rfl

end Numeral

/-- A text is cleaned in one way: the blanks at its ends go, then the markers in front, then the
underscores. Nothing left is empty, and a sign alone is no digit. Otherwise a plus sign in front
goes too, and the text is a numeral just if all that is left are digits that are worth at most
65535, which is then its number. If it is none, the number is too large just if the longest run of
digits in front is worth more than 65535, and in every other case a digit is invalid. -/
theorem numeral_read_exactly (text : String) :
    ∃ left, Numeral.Cleaned text.toList left ∧
      (∀ other, Numeral.Cleaned text.toList other → other = left) ∧
      (left = [] → Numeral.read text = .error .empty) ∧
      (left = ['+'] ∨ left = ['-'] → Numeral.read text = .error .invalidDigit) ∧
      (left ≠ [] → left ≠ ['+'] → left ≠ ['-'] →
        let digits := Numeral.unsigned left
        let fits := digits.all Numeral.isDigit = true ∧ Numeral.value digits ≤ 65535
        let run := Numeral.value (digits.takeWhile Numeral.isDigit)
        ((∃ number, Numeral.read text = .ok number) ↔ fits) ∧
        (∀ number, Numeral.read text = .ok number → number.toNat = Numeral.value digits) ∧
        (Numeral.read text = .error .tooLarge ↔ 65535 < run) ∧
        (Numeral.read text = .error .invalidDigit ↔ ¬ fits ∧ ¬ 65535 < run)) := by
  refine ⟨Numeral.clean text.toList, (Numeral.cleaned_iff _ _).2 rfl,
    fun other => (Numeral.cleaned_iff _ _).1, ?_, ?_, ?_⟩
  · intro hnone
    rw [Numeral.read, hnone]
    rfl
  · rintro (hsign | hsign)
    · rw [Numeral.read, hsign]
      rfl
    · rw [Numeral.read, hsign]
      rfl
  · intro hsome hplus _ digits fits run
    have hread : Numeral.read text = (Numeral.digits 0 digits).map UInt16.ofNat := by
      rw [Numeral.read, Numeral.unmarked_eq hsome hplus]
    have houtcome := Numeral.outcome_digits (Nat.zero_lt_succ 65535) digits
    have hok : ∀ number, Numeral.read text = .ok number ↔
        ∃ n, Numeral.digits 0 digits = .ok n ∧ UInt16.ofNat n = number := by
      intro number
      rw [hread]
      cases Numeral.digits 0 digits <;> simp [Except.map]
    have herror : ∀ error, Numeral.read text = .error error ↔
        Numeral.digits 0 digits = .error error := by
      intro error
      rw [hread]
      cases Numeral.digits 0 digits <;> simp [Except.map]
    refine ⟨⟨?_, ?_⟩, ?_, ?_, ?_⟩
    · rintro ⟨number, hnumber⟩
      obtain ⟨n, hn, -⟩ := (hok number).1 hnumber
      exact ((houtcome.eq_ok_iff n).1 hn).1
    · intro hfits
      exact ⟨_, (hok _).2 ⟨_, (houtcome.eq_ok_iff _).2 ⟨hfits, rfl⟩, rfl⟩⟩
    · intro number hnumber
      obtain ⟨n, hn, rfl⟩ := (hok number).1 hnumber
      obtain ⟨⟨-, hle⟩, rfl⟩ := (houtcome.eq_ok_iff n).1 hn
      exact UInt16.toNat_ofNat_of_lt' (Nat.lt_succ_of_le hle)
    · exact (herror _).trans houtcome.eq_tooLarge_iff
    · exact (herror _).trans houtcome.eq_invalidDigit_iff

/-- A sign behind two markers is read, and so are leading zeros and letters of either case. A number
that is too large is reported before the letter that is no digit. -/
theorem numeral_read_exactly_signed :
    let signed := "\u2003 0x0x+_00_1aF\n"
    let large := "0x_1_0000g"
    Numeral.Cleaned signed.toList "+001aF".toList ∧
    (∃ number, Numeral.read signed = .ok number) ∧
    (∀ number, Numeral.read signed = .ok number → number.toNat = 0x1af) ∧
    Numeral.Cleaned large.toList "10000g".toList ∧
    Numeral.read large = .error .tooLarge := by
  intro signed large
  have hsigned : Numeral.Cleaned signed.toList "+001aF".toList :=
    (Numeral.cleaned_iff _ _).2 (by decide)
  have hlarge : Numeral.Cleaned large.toList "10000g".toList :=
    (Numeral.cleaned_iff _ _).2 (by decide)
  obtain ⟨left, -, hunique, -, -, hread⟩ := numeral_read_exactly signed
  obtain rfl := hunique _ hsigned
  obtain ⟨hok, hvalue, -⟩ := hread (by decide) (by decide) (by decide)
  obtain ⟨left, -, hunique, -, -, hread⟩ := numeral_read_exactly large
  obtain rfl := hunique _ hlarge
  obtain ⟨-, -, htooLarge, -⟩ := hread (by decide) (by decide) (by decide)
  exact ⟨hsigned, hok.2 (by decide), hvalue, hlarge, htooLarge.2 (by decide)⟩

end Switchboard
