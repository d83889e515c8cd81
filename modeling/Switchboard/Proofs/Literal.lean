import Switchboard.Text.Quoted

/-!
# Reading a literal back

The reader knows the escapes and nothing of which characters are written as escapes. It gives back
every text that was quoted, and what stands after the literal, so a literal cannot be confused with
its surroundings; and a literal stays on its line.
-/
namespace Switchboard.Quoted

/-- Where a reader stands inside a literal. -/
inductive Mode where
  | plain
  /-- Behind a backslash. -/
  | escaped
  /-- Before the brace that opens a code point. -/
  | opening
  /-- Inside the braces, behind so many digits worth so much. -/
  | code (count value : Nat)

/-- What a single letter behind a backslash stands for. -/
def single? : Char → Option Char
  | '"' => some '"'
  | '\\' => some '\\'
  | 't' => some '\t'
  | 'r' => some '\r'
  | 'n' => some '\n'
  | '0' => some '\x00'
  | _ => none

/-- A character before what is read behind it. -/
def push (c : Char) (found : Option (List Char × List Char)) : Option (List Char × List Char) :=
  found.map fun (text, rest) => (c :: text, rest)

/-- Reads up to the closing quote, and what is left behind it. -/
def scan : Mode → List Char → Option (List Char × List Char)
  | _, [] => none
  | .plain, c :: rest =>
    if c = '"' then some ([], rest)
    else if c = '\\' then scan .escaped rest
    else push c (scan .plain rest)
  | .escaped, c :: rest =>
    if c = 'u' then scan .opening rest
    else
      match single? c with
      | none => none
      | some meant => push meant (scan .plain rest)
  | .opening, c :: rest => if c = '\x7b' then scan (.code 0 0) rest else none
  | .code count value, c :: rest =>
    match Hex.digit? c with
    | some digit => if count < 6 then scan (.code (count + 1) (value * 16 + digit)) rest else none
    | none =>
      if c = '\x7d' ∧ 0 < count ∧ value.isValidChar then
        push (Char.ofNat value) (scan .plain rest)
      else none

/-- Reads a literal at the start of a text. -/
def read : List Char → Option (List Char × List Char)
  | [] => none
  | c :: rest => if c = '"' then scan .plain rest else none

/-- The ways in which a character can be written. -/
inductive Written (c : Char) : List Char → Prop
  | itself (hquote : c ≠ '"') (hback : c ≠ '\\') (hbreak : c ≠ '\n') : Written c [c]
  | letter {l : Char} (h : single? l = some c) : Written c ['\\', l]
  | code : Written c (['\\', 'u', '\x7b'] ++ Hex.digits c.toNat ++ ['\x7d'])

theorem digit?_digitChar : ∀ d < 16, Hex.digit? (Nat.digitChar d) = some d := by decide

/-- Digits are read as the number that they were written for. Every digit but the last stands for
the number without its last digit, so the reader is at that number when it comes to the last. -/
theorem scan_digits {n : Nat} (h : (Hex.digits n).length ≤ 6) (rest : List Char) :
    scan (.code 0 0) (Hex.digits n ++ rest) = scan (.code (Hex.digits n).length n) rest := by
  induction n using Nat.strongRecOn generalizing rest with
  | ind n ih =>
    unfold Hex.digits at h ih ⊢
    rw [Nat.toDigits_eq_if (by decide)] at h ⊢
    split at h
    · rename_i hn
      rw [if_pos hn, List.singleton_append, scan, digit?_digitChar n hn, List.length_singleton]
      simp
    · rename_i hn
      rw [List.length_append, List.length_singleton] at h
      rw [if_neg hn, List.append_assoc, ih (n / 16) (by omega) (by omega), List.singleton_append,
        scan, digit?_digitChar (n % 16) (by omega), List.length_append, List.length_singleton]
      simp only
      rw [if_pos (by omega), show n / 16 * 16 + n % 16 = n by omega]

theorem digit?_of_mem_digits {n : Nat} {c : Char} (h : c ∈ Hex.digits n) :
    ∃ d, Hex.digit? c = some d := by
  induction n using Nat.strongRecOn with
  | ind n ih =>
    unfold Hex.digits at h ih
    rw [Nat.toDigits_eq_if (by decide)] at h
    split at h
    · rename_i hn
      rw [List.mem_singleton.1 h]
      exact ⟨n, digit?_digitChar n hn⟩
    · rename_i hn
      rcases List.mem_append.1 h with h | h
      · exact ih (n / 16) (by omega) h
      · rw [List.mem_singleton.1 h]
        exact ⟨n % 16, digit?_digitChar _ (by omega)⟩

/-- Six digits are enough for a code point. -/
theorem length_digits_le (c : Char) : (Hex.digits c.toNat).length ≤ 6 := by
  have hvalid : c.toNat < 0xd800 ∨ 0xdfff < c.toNat ∧ c.toNat < 0x110000 := c.valid
  have hlt : c.toNat < 16 ^ 6 := by omega
  exact (Nat.length_toDigits_le_iff (by decide) (by decide)).2 hlt

theorem written_escape (c : Char) : Written c (escape c) := by
  unfold escape
  split
  · exact .letter (by subst c; rfl)
  split
  · exact .letter (by subst c; rfl)
  split
  · exact .letter (by subst c; rfl)
  split
  · exact .letter (by subst c; rfl)
  split
  · exact .letter (by subst c; rfl)
  rename_i hquote hback _ _ hbreak
  split
  · exact .letter (by subst c; rfl)
  split
  · exact .itself hquote hback hbreak
  · exact .code

/-- However a character is written, it is read as itself. -/
theorem scan_written {c : Char} {form : List Char} (h : Written c form) (rest : List Char) :
    scan .plain (form ++ rest) = push c (scan .plain rest) := by
  cases h with
  | itself hquote hback _ => rw [List.singleton_append, scan, if_neg hquote, if_neg hback]
  | @letter l h =>
    have hopening : l ≠ 'u' := by
      rintro rfl
      cases h
    show scan .escaped (l :: rest) = _
    rw [scan, if_neg hopening, h]
  | code =>
    have hbrace : Hex.digit? '\x7d' = none := by decide
    have hvalid : c.toNat.isValidChar := c.valid
    show scan (.code 0 0) ((Hex.digits c.toNat ++ ['\x7d']) ++ rest) = _
    rw [List.append_assoc, scan_digits (length_digits_le c), List.singleton_append, scan, hbrace]
    refine (if_pos ⟨rfl, Nat.length_toDigits_pos, hvalid⟩).trans ?_
    rw [Char.ofNat_toNat]

theorem scan_encode (text rest : List Char) :
    scan .plain (text.flatMap escape ++ '"' :: rest) = some (text, rest) := by
  induction text with
  | nil => rfl
  | cons c text ih =>
    rw [List.flatMap_cons, List.append_assoc, scan_written (written_escape c), ih]
    rfl

/-- A literal is read as the text that was quoted, whatever stands behind it. -/
theorem read_encode (text rest : List Char) : read (encode text ++ rest) = some (text, rest) := by
  simp only [encode, List.cons_append, List.append_assoc]
  exact scan_encode text rest

theorem break_not_mem_written {c : Char} {form : List Char} (h : Written c form) :
    '\n' ∉ form := by
  cases h with
  | itself _ _ hbreak => exact fun h => hbreak (List.mem_singleton.1 h).symm
  | @letter l h =>
    have hletter : l ≠ '\n' := by
      rintro rfl
      cases h
    simp [hletter.symm]
  | code =>
    have hdigits : '\n' ∉ Hex.digits c.toNat := by
      intro h
      obtain ⟨d, hd⟩ := digit?_of_mem_digits h
      cases hd
    simp [hdigits]

/-- A literal is on one line. -/
theorem break_not_mem_encode (text : List Char) : '\n' ∉ encode text := by
  intro h
  rcases List.mem_append.1 h with h | h
  · rcases List.mem_cons.1 h with h | h
    · cases h
    · obtain ⟨c, -, hc⟩ := List.mem_flatMap.1 h
      exact break_not_mem_written (written_escape c) hc
  · cases List.mem_singleton.1 h

end Switchboard.Quoted
