import Mathlib.Data.List.TakeWhile
import Switchboard.Json.Value
import Switchboard.Proofs.Literal

/-!
# The spellings of numbers and strings

The grammar is given rule by rule and with no reader in mind. A number is kept as it is written. A
character of a string stands for itself or is escaped, by a letter or by its code units, and two
units that form a surrogate pair are one character. The reader, which goes through a string once
and remembers no more than the half of a pair that came last, finds what the pieces stand for.
-/
namespace Switchboard.Json

/-- Digits, at least one. -/
def Digits (text : List Char) : Prop := text ≠ [] ∧ ∀ c ∈ text, c ∈ "0123456789".toList

inductive Whole : List Char → Prop
  | zero : Whole ['0']
  /-- A number that has more digits than a zero alone does not start with zero. -/
  | digits {first : Char} {rest : List Char} (hzero : first ≠ '0')
      (h : Digits (first :: rest)) : Whole (first :: rest)

inductive Fraction : List Char → Prop
  | absent : Fraction []
  | digits {text : List Char} (h : Digits text) : Fraction ('.' :: text)

inductive Exponent : List Char → Prop
  | absent : Exponent []
  | digits {letter : Char} {sign text : List Char} (hletter : letter ∈ ['e', 'E'])
      (hsign : sign ∈ [[], ['+'], ['-']]) (h : Digits text) : Exponent (letter :: (sign ++ text))

inductive Numeric : List Char → Prop
  | parts {sign whole fraction exponent : List Char} (hsign : sign ∈ [[], ['-']])
      (hwhole : Whole whole) (hfraction : Fraction fraction) (hexponent : Exponent exponent) :
      Numeric (sign ++ (whole ++ (fraction ++ exponent)))

/-- A piece of a string: a character, or a code unit that was given by its number. -/
inductive Piece where
  | char (c : Char)
  | unit (n : Nat)

/-- The letters that may stand behind a backslash, with what they stand for. -/
def escapes : List (Char × Char) :=
  [('"', '"'), ('\\', '\\'), ('/', '/'), ('b', '\x08'), ('f', '\x0c'), ('n', '\n'), ('r', '\r'),
    ('t', '\t')]

/-- A digit in either case and what it is worth. -/
def HexDigit (c : Char) (value : Nat) : Prop :=
  value < 16 ∧ (c = value.digitChar ∨ c = value.digitChar.toUpper)

instance (c : Char) (value : Nat) : Decidable (HexDigit c value) :=
  inferInstanceAs (Decidable (_ ∧ _))

inductive Piece.Spelled : Piece → List Char → Prop
  | itself {c : Char} (hcontrol : 0x20 ≤ c.toNat) (hquote : c ≠ '"') (hback : c ≠ '\\') :
      Spelled (.char c) [c]
  | letter {letter c : Char} (h : (letter, c) ∈ escapes) : Spelled (.char c) ['\\', letter]
  | unit {c₃ c₂ c₁ c₀ : Char} {d₃ d₂ d₁ d₀ : Nat} (h₃ : HexDigit c₃ d₃) (h₂ : HexDigit c₂ d₂)
      (h₁ : HexDigit c₁ d₁) (h₀ : HexDigit c₀ d₀) :
      Spelled (.unit (d₃ * 4096 + d₂ * 256 + d₁ * 16 + d₀)) ['\\', 'u', c₃, c₂, c₁, c₀]

namespace Piece

/-- Code units that open a surrogate pair. -/
def High (n : Nat) : Prop := 0xd800 ≤ n ∧ n < 0xdc00

/-- Code units that close a surrogate pair. -/
def Low (n : Nat) : Prop := 0xdc00 ≤ n ∧ n < 0xe000

instance (n : Nat) : Decidable (High n) := inferInstanceAs (Decidable (_ ∧ _))

instance (n : Nat) : Decidable (Low n) := inferInstanceAs (Decidable (_ ∧ _))

/-- The character of a surrogate pair. -/
def pair (high low : Nat) : Char :=
  Char.ofNat (0x10000 + (high - 0xd800) * 0x400 + (low - 0xdc00))

/-- The characters that pieces stand for, if no half of a surrogate pair stands alone. -/
def join : List Piece → Option (List Char)
  | [] => some []
  | .char c :: rest => (join rest).map (c :: ·)
  | .unit n :: rest =>
    if High n then
      match rest with
      | .unit low :: rest =>
        if Low low then
          (join rest).map (pair n low :: ·)
        else none
      | _ => none
    else if Low n then none
    else (join rest).map (Char.ofNat n :: ·)

end Piece

/-- A string in quotes; it spells nothing if half of a surrogate pair stands alone. -/
inductive StringSpelled : Option String → List Char → Prop
  | quoted {pieces : List (Piece × List Char)} (h : ∀ piece ∈ pieces, piece.1.Spelled piece.2) :
      StringSpelled ((Piece.join (pieces.map (·.1))).map String.ofList)
        ('"' :: (pieces.flatMap (·.2) ++ ['"']))

theorem isDigit_of_mem {c : Char} (h : c ∈ "0123456789".toList) : isDigit c = true := by
  have hall : "0123456789".toList.all isDigit = true := by decide
  exact List.all_eq_true.1 hall c h

theorem Digits.all_isDigit {text : List Char} (h : Digits text) : text.all isDigit = true :=
  List.all_eq_true.2 fun c hc => isDigit_of_mem (h.2 c hc)

theorem Digits.allDigits_eq {text : List Char} (h : Digits text) : allDigits text = true := by
  rw [allDigits, h.all_isDigit, List.isEmpty_eq_false_iff.2 h.1]
  rfl

theorem Exponent.isExponent_eq {text : List Char} (h : Exponent text) :
    isExponent text = true := by
  cases h with
  | absent => rfl
  | @digits letter sign text hletter hsign h =>
    have hall := h.allDigits_eq
    have hletter : (letter == 'e' || letter == 'E') = true := by
      simp only [List.mem_cons, List.not_mem_nil, or_false] at hletter
      rcases hletter with rfl | rfl <;> rfl
    unfold isExponent
    simp only [hletter, Bool.true_and]
    simp only [List.mem_cons, List.not_mem_nil, or_false] at hsign
    rcases hsign with rfl | rfl | rfl
    · -- digits do not start with a sign
      rw [List.nil_append]
      split
      · exact absurd (h.2 '+' List.mem_cons_self) (by decide)
      · exact absurd (h.2 '-' List.mem_cons_self) (by decide)
      · exact hall
    · exact hall
    · exact hall

/-- Neither an exponent nor a fraction starts with a digit, so digits before it end there. -/
theorem span_digits {digits rest : List Char} (hdigits : digits.all isDigit = true)
    (hrest : ∀ c ∈ rest.head?, isDigit c = false) :
    (digits ++ rest).takeWhile isDigit = digits ∧ (digits ++ rest).dropWhile isDigit = rest := by
  have hall : ∀ c ∈ digits, isDigit c = true := List.all_eq_true.1 hdigits
  rw [List.takeWhile_append_of_pos hall, List.dropWhile_append_of_pos hall]
  cases rest with
  | nil => exact ⟨List.append_nil _, rfl⟩
  | cons c rest =>
    have hc := hrest c rfl
    rw [List.takeWhile_cons_of_neg (by simp [hc]), List.dropWhile_cons_of_neg (by simp [hc])]
    exact ⟨List.append_nil _, rfl⟩

theorem Exponent.head_not_digit {text : List Char} (h : Exponent text) :
    ∀ c ∈ text.head?, isDigit c = false ∧ c ≠ '.' := by
  cases h with
  | absent => exact nofun
  | digits hletter =>
    intro c hc
    cases hc
    simp only [List.mem_cons, List.not_mem_nil, or_false] at hletter
    rcases hletter with rfl | rfl <;> decide

theorem isFraction_of_parts {fraction exponent : List Char} (hfraction : Fraction fraction)
    (hexponent : Exponent exponent) : isFraction (fraction ++ exponent) = true := by
  cases hfraction with
  | absent =>
    rw [List.nil_append, ← hexponent.isExponent_eq]
    unfold isFraction
    split
    · exact absurd rfl (hexponent.head_not_digit '.' rfl).2
    · rfl
  | @digits text h =>
    obtain ⟨htake, hdrop⟩ := span_digits h.all_isDigit
      fun c hc => (hexponent.head_not_digit c hc).1
    rw [List.cons_append, isFraction, htake, hdrop, hexponent.isExponent_eq,
      List.isEmpty_eq_false_iff.2 h.1]
    rfl

theorem parts_head_not_digit {fraction exponent : List Char} (hfraction : Fraction fraction)
    (hexponent : Exponent exponent) : ∀ c ∈ (fraction ++ exponent).head?, isDigit c = false := by
  cases hfraction with
  | absent => exact fun c hc => (hexponent.head_not_digit c hc).1
  | digits h =>
    intro c hc
    cases hc
    rfl

theorem isMagnitude_of_parts {whole fraction exponent : List Char} (hwhole : Whole whole)
    (hfraction : Fraction fraction) (hexponent : Exponent exponent) :
    isMagnitude (whole ++ (fraction ++ exponent)) = true := by
  have hrest := isFraction_of_parts hfraction hexponent
  cases hwhole with
  | zero => rw [List.singleton_append, isMagnitude, hrest]
  | @digits first rest hzero h =>
    have hall := h.all_isDigit
    rw [List.all_cons, Bool.and_eq_true] at hall
    obtain ⟨-, hdrop⟩ := span_digits hall.2 (parts_head_not_digit hfraction hexponent)
    rw [List.cons_append, isMagnitude.eq_2 _ _ fun h => hzero h, hall.1, hdrop, hrest]
    rfl

theorem Numeric.isNumber_eq {text : List Char} (h : Numeric text) : isNumber text = true := by
  obtain ⟨hsign, hwhole, hfraction, hexponent⟩ := h
  have hmagnitude := isMagnitude_of_parts hwhole hfraction hexponent
  simp only [List.mem_cons, List.not_mem_nil, or_false] at hsign
  rcases hsign with rfl | rfl
  · rw [List.nil_append]
    unfold isNumber
    split
    next rest heq =>
      -- no magnitude starts with a sign
      rw [heq] at hmagnitude
      exact absurd hmagnitude (by simp [isMagnitude, isDigit])
    · exact hmagnitude
  · exact hmagnitude

theorem isNumberChar_of_digit {c : Char} (h : c ∈ "0123456789".toList) :
    isNumberChar c = true := by
  simp [isNumberChar, isDigit_of_mem h]

theorem Numeric.isNumberChar_of_mem {text : List Char} (h : Numeric text) :
    ∀ c ∈ text, isNumberChar c = true := by
  obtain ⟨hsign, hwhole, hfraction, hexponent⟩ := h
  simp only [List.forall_mem_append]
  refine ⟨?_, ?_, ?_, ?_⟩
  · simp only [List.mem_cons, List.not_mem_nil, or_false] at hsign
    rcases hsign with rfl | rfl
    · exact nofun
    · exact List.forall_mem_singleton.2 rfl
  · cases hwhole with
    | zero => exact List.forall_mem_singleton.2 rfl
    | digits _ h => exact fun c hc => isNumberChar_of_digit (h.2 c hc)
  · cases hfraction with
    | absent => exact nofun
    | digits h =>
      rw [List.forall_mem_cons]
      exact ⟨rfl, fun c hc => isNumberChar_of_digit (h.2 c hc)⟩
  · cases hexponent with
    | absent => exact nofun
    | digits hletter hsign h =>
      rw [List.forall_mem_cons, List.forall_mem_append]
      refine ⟨?_, ?_, fun c hc => isNumberChar_of_digit (h.2 c hc)⟩
      · simp only [List.mem_cons, List.not_mem_nil, or_false] at hletter
        rcases hletter with rfl | rfl <;> rfl
      · simp only [List.mem_cons, List.not_mem_nil, or_false] at hsign
        rcases hsign with rfl | rfl | rfl
        · exact nofun
        · exact List.forall_mem_singleton.2 rfl
        · exact List.forall_mem_singleton.2 rfl

/-- A number starts with its sign or with a digit. -/
theorem Numeric.exists_cons {text : List Char} (h : Numeric text) :
    ∃ first rest, text = first :: rest ∧ first ∈ "-0123456789".toList := by
  obtain ⟨hsign, hwhole, -, -⟩ := h
  simp only [List.mem_cons, List.not_mem_nil, or_false] at hsign
  rcases hsign with rfl | rfl
  · cases hwhole with
    | zero => exact ⟨_, _, rfl, by decide⟩
    | digits _ h => exact ⟨_, _, rfl, List.mem_cons_of_mem _ (h.2 _ List.mem_cons_self)⟩
  · exact ⟨_, _, rfl, by decide⟩

namespace Scan

/-- The text may end here, or go on with what belongs to no number and no word. Either way these
are the tokens. -/
structure Settles (scan : Scan) (tokens : List Token) : Prop where
  close : scan.close = some ⟨.between, tokens⟩
  feed : ∀ c, isNumberChar c = false → isLetter c = false →
    scan.feed c = start ⟨.between, tokens⟩ c

theorem settles_between (tokens : List Token) : Settles ⟨.between, tokens⟩ tokens :=
  ⟨rfl, fun _ _ _ => rfl⟩

theorem start_number {first : Char} (h : first ∈ "-0123456789".toList) (scan : Scan) :
    scan.start first = some { scan with mode := .number [first] } := by
  have hfirst : first = '-' ∨ first = '0' ∨ first = '1' ∨ first = '2' ∨ first = '3' ∨
      first = '4' ∨ first = '5' ∨ first = '6' ∨ first = '7' ∨ first = '8' ∨ first = '9' := by
    simpa using h
  rcases hfirst with rfl | rfl | rfl | rfl | rfl | rfl | rfl | rfl | rfl | rfl | rfl <;> rfl

theorem foldlM_number {rest : List Char} (h : ∀ c ∈ rest, isNumberChar c = true)
    (seen : List Char) (tokens : List Token) :
    rest.foldlM feed ⟨.number seen, tokens⟩ = some ⟨.number (rest.reverse ++ seen), tokens⟩ := by
  induction rest generalizing seen with
  | nil => rfl
  | cons c rest ih =>
    rw [List.forall_mem_cons] at h
    have hfeed : feed ⟨.number seen, tokens⟩ c = some ⟨.number (c :: seen), tokens⟩ :=
      if_pos h.1
    rw [List.foldlM_cons, hfeed, Option.bind_eq_bind, Option.bind_some, ih h.2,
      List.reverse_cons, List.append_assoc, List.singleton_append]

/-- A number is read as it is written, and ends with what does not belong to it. -/
theorem settles_number {digits : List Char} (h : Numeric digits) (tokens : List Token) :
    ∃ scan, digits.foldlM feed ⟨.between, tokens⟩ = some scan ∧
      scan.Settles (.number digits :: tokens) := by
  obtain ⟨first, rest, rfl, hfirst⟩ := h.exists_cons
  have hchars := (List.forall_mem_cons.1 h.isNumberChar_of_mem).2
  have hclose : close ⟨.number (first :: rest).reverse, tokens⟩ =
      some ⟨.between, .number (first :: rest) :: tokens⟩ := by
    rw [close]
    simp only [List.reverse_reverse]
    exact if_pos h.isNumber_eq
  refine ⟨⟨.number (first :: rest).reverse, tokens⟩, ?_, hclose, fun c hnumber _ => ?_⟩
  · have hfeed : feed ⟨.between, tokens⟩ first = some ⟨.number [first], tokens⟩ :=
      start_number hfirst _
    rw [List.foldlM_cons, hfeed, Option.bind_eq_bind, Option.bind_some, foldlM_number hchars,
      List.reverse_cons]
  · have hfeed : feed ⟨.number (first :: rest).reverse, tokens⟩ c =
        (close ⟨.number (first :: rest).reverse, tokens⟩).bind (·.start c) :=
      if_neg (by simp [hnumber])
    rw [hfeed, hclose, Option.bind_some]

/-- A word is read as the token that it stands for, and ends with what is no letter. -/
theorem settles_word {word : List Char} {token : Token} (h : word? word = some token)
    {tokens : List Token}
    (hscan : word.foldlM feed ⟨.between, tokens⟩ = some ⟨.word word.reverse, tokens⟩) :
    ∃ scan, word.foldlM feed ⟨.between, tokens⟩ = some scan ∧
      scan.Settles (token :: tokens) := by
  have hclose : close ⟨.word word.reverse, tokens⟩ = some ⟨.between, token :: tokens⟩ := by
    simp only [close, List.reverse_reverse, h, Option.map_some, emit]
  refine ⟨_, hscan, hclose, fun c _ hletter => ?_⟩
  have hfeed : feed ⟨.word word.reverse, tokens⟩ c =
      (close ⟨.word word.reverse, tokens⟩).bind (·.start c) := if_neg (by simp [hletter])
  rw [hfeed, hclose, Option.bind_some]

end Scan

namespace Piece

theorem Low.not_high {n : Nat} (h : Low n) : ¬ High n := fun hhigh => Nat.not_lt.2 h.1 hhigh.2

theorem join_pair {high low : Nat} (hhigh : High high) (hlow : Low low) (rest : List Piece) :
    join (.unit high :: .unit low :: rest) = (join rest).map (pair high low :: ·) := by
  rw [join, if_pos hhigh, if_pos hlow]

theorem join_half {high : Nat} (hhigh : High high) {rest : List Piece}
    (h : ∀ low others, rest = .unit low :: others → ¬ Low low) :
    join (.unit high :: rest) = none := by
  unfold join
  rw [if_pos hhigh]
  split
  next low others => exact if_neg (h low others rfl)
  next => rfl

theorem join_low {n : Nat} (hlow : Low n) (rest : List Piece) : join (.unit n :: rest) = none := by
  unfold join
  rw [if_neg hlow.not_high, if_pos hlow]

theorem join_alone {n : Nat} (hhigh : ¬ High n) (hlow : ¬ Low n) (rest : List Piece) :
    join (.unit n :: rest) = (join rest).map (Char.ofNat n :: ·) := by
  rw [join.eq_def]
  exact (if_neg hhigh).trans (if_neg hlow)

end Piece

theorem HexDigit.digit?_eq {c : Char} {value : Nat} (h : HexDigit c value) :
    Hex.digit? c = some value := by
  obtain ⟨hlt, rfl | rfl⟩ := h
  · exact Quoted.digit?_digitChar value hlt
  · have hupper : ∀ d < 16, Hex.digit? d.digitChar.toUpper = some d := by decide
    exact hupper value hlt

theorem escaped?_of_mem {letter c : Char} (h : (letter, c) ∈ escapes) :
    letter ≠ 'u' ∧ escaped? letter = some c := by
  have hall : ∀ pair ∈ escapes, pair.1 ≠ 'u' ∧ escaped? pair.1 = some pair.2 := by decide
  exact hall (letter, c) h

namespace Draft

/-- What a piece adds to the inside of a string. -/
def add (draft : Draft) : Piece → Draft
  | .char c => draft.push c
  | .unit n => draft.pushUnit n

theorem foldlM_piece {piece : Piece} {text : List Char} (h : piece.Spelled text) (draft : Draft)
    (tokens : List Token) :
    text.foldlM Scan.feed ⟨.string draft, tokens⟩ = some ⟨.string (draft.add piece), tokens⟩ := by
  cases h with
  | @itself c hcontrol hquote hback =>
    have hfeed : Scan.feed ⟨.string draft, tokens⟩ c = some ⟨.string (draft.push c), tokens⟩ := by
      simp only [Scan.feed, Scan.inString, if_neg hquote, if_neg hback,
        if_neg (Nat.not_lt.2 hcontrol)]
    rw [List.foldlM_cons, hfeed]
    rfl
  | @letter letter c h =>
    obtain ⟨hunit, hescape⟩ := escaped?_of_mem h
    have hfeed : Scan.feed ⟨.escape draft, tokens⟩ letter =
        some ⟨.string (draft.push c), tokens⟩ := by
      simp only [Scan.feed, Scan.inEscape, if_neg hunit, hescape, Option.map_some]
    have hback : Scan.feed ⟨.string draft, tokens⟩ '\\' = some ⟨.escape draft, tokens⟩ := rfl
    rw [List.foldlM_cons, hback, Option.bind_eq_bind, Option.bind_some, List.foldlM_cons, hfeed]
    rfl
  | @unit c₃ c₂ c₁ c₀ d₃ d₂ d₁ d₀ h₃ h₂ h₁ h₀ =>
    have hvalue : (((0 * 16 + d₃) * 16 + d₂) * 16 + d₁) * 16 + d₀ =
        d₃ * 4096 + d₂ * 256 + d₁ * 16 + d₀ := by omega
    have hopen : ['\\', 'u'].foldlM Scan.feed ⟨.string draft, tokens⟩ =
        some ⟨.unit draft 3 0, tokens⟩ := rfl
    have hdigits : [c₃, c₂, c₁, c₀].foldlM Scan.feed ⟨.unit draft 3 0, tokens⟩ =
        some ⟨.string (draft.pushUnit (d₃ * 4096 + d₂ * 256 + d₁ * 16 + d₀)), tokens⟩ := by
      simp only [List.foldlM_cons, List.foldlM_nil, Scan.feed, Scan.inUnit, h₃.digit?_eq,
        h₂.digit?_eq, h₁.digit?_eq, h₀.digit?_eq, Option.bind_eq_bind, Option.bind_some,
        Option.pure_def, hvalue]
    have hparts : ['\\', 'u', c₃, c₂, c₁, c₀] = ['\\', 'u'] ++ [c₃, c₂, c₁, c₀] := rfl
    rw [hparts, List.foldlM_append, hopen]
    exact hdigits

theorem foldlM_pieces {pieces : List (Piece × List Char)}
    (h : ∀ piece ∈ pieces, piece.1.Spelled piece.2) (draft : Draft) (tokens : List Token) :
    (pieces.flatMap (·.2)).foldlM Scan.feed ⟨.string draft, tokens⟩ =
      some ⟨.string ((pieces.map (·.1)).foldl add draft), tokens⟩ := by
  induction pieces generalizing draft with
  | nil => rfl
  | cons piece pieces ih =>
    rw [List.forall_mem_cons] at h
    rw [List.flatMap_cons, List.foldlM_append, foldlM_piece h.1, Option.bind_eq_bind,
      Option.bind_some, ih h.2, List.map_cons, List.foldl_cons]

/-- A half that stands alone cannot be made good. -/
theorem finish_of_not_whole (pieces : List Piece) {draft : Draft} (h : draft.whole = false) :
    (pieces.foldl add draft).finish = none := by
  induction pieces generalizing draft with
  | nil => simp [finish, h]
  | cons piece pieces ih =>
    refine ih ?_
    cases piece with
    | char c => simp [add, push, h]
    | unit n =>
      simp only [add, pushUnit]
      split
      · simp [h]
      · split
        · split
          · exact h
          · rfl
        · simp [push, h]

theorem pushUnit_high {n : Nat} (h : Piece.High n) (draft : Draft) :
    draft.pushUnit n =
      { draft with half := some n, whole := draft.whole && draft.half.isNone } := if_pos h

theorem pushUnit_low {n : Nat} (h : Piece.Low n) (draft : Draft) :
    draft.pushUnit n =
      match draft.half with
      | some high => ⟨Piece.pair high n :: draft.written, none, draft.whole⟩
      | none => { draft with whole := false } := by
  exact (if_neg h.not_high).trans (if_pos h)

theorem pushUnit_alone {n : Nat} (hhigh : ¬ Piece.High n) (hlow : ¬ Piece.Low n) (draft : Draft) :
    draft.pushUnit n = draft.push (Char.ofNat n) := (if_neg hhigh).trans (if_neg hlow)

/-- Behind the first half of a surrogate pair nothing but its other half keeps the string whole. -/
theorem whole_add {draft : Draft} (hhalf : draft.half.isNone = false) {piece : Piece}
    (h : ∀ n, piece = .unit n → ¬ Piece.Low n) : (draft.add piece).whole = false := by
  cases piece with
  | char c => simp [add, push, hhalf]
  | unit n =>
    rw [add]
    by_cases hhigh : Piece.High n
    · simp [pushUnit_high hhigh, hhalf]
    · simp [pushUnit_alone hhigh (h n rfl), push, hhalf]

/-- Reading pieces one after the other gives what they stand for together, also when the first half
of a surrogate pair was read before. -/
theorem finish_foldl (pieces : List Piece) (written : List Char) :
    (pieces.foldl add ⟨written, none, true⟩).finish =
      (Piece.join pieces).map (fun text => String.ofList (written.reverse ++ text)) ∧
    ∀ high, Piece.High high → (pieces.foldl add ⟨written, some high, true⟩).finish =
      (Piece.join (.unit high :: pieces)).map
        fun text => String.ofList (written.reverse ++ text) := by
  induction pieces generalizing written with
  | nil =>
    refine ⟨by simp [finish, Piece.join], fun high hhigh => ?_⟩
    have halone : Piece.join [.unit high] = none := Piece.join_half hhigh (by simp)
    rw [halone]
    rfl
  | cons piece pieces ih =>
    constructor
    · rw [List.foldl_cons]
      cases piece with
      | char c =>
        have hadd : add ⟨written, none, true⟩ (.char c) = ⟨c :: written, none, true⟩ := rfl
        rw [hadd, (ih _).1, Piece.join, Option.map_map]
        simp [Function.comp_def]
      | unit n =>
        rw [add]
        by_cases hhigh : Piece.High n
        · rw [pushUnit_high hhigh]
          exact (ih written).2 n hhigh
        · by_cases hlow : Piece.Low n
          · rw [pushUnit_low hlow, finish_of_not_whole pieces rfl, Piece.join_low hlow]
            rfl
          · have hpush : push ⟨written, none, true⟩ (Char.ofNat n) =
                ⟨Char.ofNat n :: written, none, true⟩ := rfl
            rw [pushUnit_alone hhigh hlow, hpush, (ih _).1, Piece.join_alone hhigh hlow,
              Option.map_map]
            simp [Function.comp_def]
    · intro high hhigh
      rw [List.foldl_cons]
      by_cases hpair : ∃ n, piece = .unit n ∧ Piece.Low n
      · obtain ⟨n, rfl, hlow⟩ := hpair
        rw [add, pushUnit_low hlow, (ih _).1, Piece.join_pair hhigh hlow, Option.map_map]
        simp [Function.comp_def]
      · have hother : ∀ n, piece = .unit n → ¬ Piece.Low n :=
          fun n hpiece hlow => hpair ⟨n, hpiece, hlow⟩
        rw [finish_of_not_whole pieces (whole_add rfl hother), Piece.join_half hhigh]
        · rfl
        · intro n rest heq
          exact hother n (List.cons.inj heq).1

/-- A string is read as what it spells. -/
theorem foldlM_string {value : Option String} {text : List Char} (h : StringSpelled value text)
    (tokens : List Token) :
    text.foldlM Scan.feed ⟨.between, tokens⟩ = some ⟨.between, .text value :: tokens⟩ := by
  obtain ⟨h⟩ := h
  rename_i pieces
  have hopen : Scan.feed ⟨.between, tokens⟩ '"' = some ⟨.string {}, tokens⟩ := rfl
  have hfinish := (finish_foldl (pieces.map (·.1)) []).1
  have hclose : ∀ draft : Draft, ['"'].foldlM Scan.feed ⟨.string draft, tokens⟩ =
      some ⟨.between, .text draft.finish :: tokens⟩ := fun _ => rfl
  rw [List.foldlM_cons, hopen, Option.bind_eq_bind, Option.bind_some, List.foldlM_append,
    foldlM_pieces h, Option.bind_eq_bind, Option.bind_some, hclose, hfinish]
  rfl

end Draft

end Switchboard.Json
