import Switchboard.Text.Hex

/-!
The tokens of JSON text, read by a machine that takes one character at a time. A number or a word
ends where a character comes that cannot belong to it, so text read in two pieces gives the tokens
of the whole.
-/
namespace Switchboard.Json

inductive Token where
  | beginArray
  | endArray
  | beginObject
  | endObject
  | comma
  | colon
  | null
  | boolean (value : Bool)
  /-- A number as it is written; its size is of no concern here. -/
  | number (digits : List Char)
  /-- A string, or nothing if an escape leaves half of a surrogate pair. -/
  | text (value : Option String)
  deriving DecidableEq

/-- The inside of a string up to some point. -/
structure Draft where
  /-- Characters read so far, the last one first. -/
  written : List Char := []
  /-- The first half of a surrogate pair, if one was just read. -/
  half : Option Nat := none
  /-- Whether every half so far has found its other half. -/
  whole : Bool := true
  deriving DecidableEq

namespace Draft

def push (draft : Draft) (c : Char) : Draft :=
  { written := c :: draft.written, whole := draft.whole && draft.half.isNone }

/-- Adds a code unit that was given as an escape. -/
def pushUnit (draft : Draft) (unit : Nat) : Draft :=
  if 0xd800 ≤ unit ∧ unit < 0xdc00 then
    { draft with half := some unit, whole := draft.whole && draft.half.isNone }
  else if 0xdc00 ≤ unit ∧ unit < 0xe000 then
    match draft.half with
    | some high =>
      { draft with
        written := Char.ofNat (0x10000 + (high - 0xd800) * 0x400 + (unit - 0xdc00)) :: draft.written
        half := none }
    | none => { draft with whole := false }
  else draft.push (Char.ofNat unit)

def finish (draft : Draft) : Option String :=
  if draft.whole && draft.half.isNone then some (String.ofList draft.written.reverse) else none

end Draft

/-- Where the machine stands between two characters. -/
inductive Mode where
  | between
  /-- In a number; its characters, the last one first. -/
  | number (seen : List Char)
  /-- In a word; its letters, the last one first. -/
  | word (seen : List Char)
  | string (draft : Draft)
  | escape (draft : Draft)
  /-- In a four-digit escape that has `missing + 1` digits to come. -/
  | unit (draft : Draft) (missing value : Nat)
  deriving DecidableEq

structure Scan where
  mode : Mode := .between
  /-- Tokens read so far, the last one first. -/
  tokens : List Token := []
  deriving DecidableEq

def isDigit (c : Char) : Bool := '0' ≤ c && c ≤ '9'

def isNumberChar (c : Char) : Bool :=
  isDigit c || c == '-' || c == '+' || c == '.' || c == 'e' || c == 'E'

def isLetter (c : Char) : Bool := 'a' ≤ c && c ≤ 'z'

/-- Four characters are insignificant between tokens. -/
def isSpace (c : Char) : Bool := c == ' ' || c == '\n' || c == '\r' || c == '\t'

/-- One digit or more, and nothing else. -/
def allDigits (text : List Char) : Bool := !text.isEmpty && text.all isDigit

/-- An exponent, from its letter on, or nothing. -/
def isExponent : List Char → Bool
  | [] => true
  | e :: rest =>
    (e == 'e' || e == 'E') &&
      match rest with
      | '+' :: digits => allDigits digits
      | '-' :: digits => allDigits digits
      | digits => allDigits digits

/-- A fraction from its point on, or nothing, then an exponent. -/
def isFraction : List Char → Bool
  | '.' :: rest =>
    !(rest.takeWhile isDigit).isEmpty && isExponent (rest.dropWhile isDigit)
  | text => isExponent text

/-- Digits before the point: a zero alone, or digits that do not start with zero. -/
def isMagnitude : List Char → Bool
  | '0' :: rest => isFraction rest
  | c :: rest => isDigit c && isFraction (rest.dropWhile isDigit)
  | [] => false

def isNumber : List Char → Bool
  | '-' :: rest => isMagnitude rest
  | text => isMagnitude text

def word? (letters : List Char) : Option Token :=
  if letters = ['n', 'u', 'l', 'l'] then some .null
  else if letters = ['t', 'r', 'u', 'e'] then some (.boolean true)
  else if letters = ['f', 'a', 'l', 's', 'e'] then some (.boolean false)
  else none

/-- The character that a one-letter escape stands for. -/
def escaped? (c : Char) : Option Char :=
  if c = '"' then some '"'
  else if c = '\\' then some '\\'
  else if c = '/' then some '/'
  else if c = 'b' then some '\x08'
  else if c = 'f' then some '\x0c'
  else if c = 'n' then some '\n'
  else if c = 'r' then some '\r'
  else if c = 't' then some '\t'
  else none

namespace Scan

def emit (scan : Scan) (token : Token) : Scan := ⟨.between, token :: scan.tokens⟩

/-- Closes a number or a word that nothing more belongs to. -/
def close (scan : Scan) : Option Scan :=
  match scan.mode with
  | .number seen =>
    if isNumber seen.reverse then some (scan.emit (.number seen.reverse)) else none
  | .word seen => (word? seen.reverse).map scan.emit
  | _ => some scan

/-- Takes a character that starts something new or stands for itself. -/
def start (scan : Scan) (c : Char) : Option Scan :=
  if isSpace c then some { scan with mode := .between }
  else if c = '[' then some (scan.emit .beginArray)
  else if c = ']' then some (scan.emit .endArray)
  else if c = '\x7b' then some (scan.emit .beginObject)
  else if c = '\x7d' then some (scan.emit .endObject)
  else if c = ',' then some (scan.emit .comma)
  else if c = ':' then some (scan.emit .colon)
  else if c = '"' then some { scan with mode := .string {} }
  else if isDigit c || c == '-' then some { scan with mode := .number [c] }
  else if isLetter c then some { scan with mode := .word [c] }
  else none

/-- Takes a character inside a string. Control characters must be escaped there. -/
def inString (scan : Scan) (draft : Draft) (c : Char) : Option Scan :=
  if c = '"' then some (scan.emit (.text draft.finish))
  else if c = '\\' then some { scan with mode := .escape draft }
  else if c.toNat < 0x20 then none
  else some { scan with mode := .string (draft.push c) }

/-- Takes the character after a backslash. -/
def inEscape (scan : Scan) (draft : Draft) (c : Char) : Option Scan :=
  if c = 'u' then some { scan with mode := .unit draft 3 0 }
  else (escaped? c).map fun c => { scan with mode := .string (draft.push c) }

/-- Takes a digit of a four-digit escape. -/
def inUnit (scan : Scan) (draft : Draft) (missing value : Nat) (c : Char) : Option Scan := do
  let digit ← Hex.digit? c
  let value := value * 16 + digit
  match missing with
  | 0 => return { scan with mode := .string (draft.pushUnit value) }
  | missing + 1 => return { scan with mode := .unit draft missing value }

/-- Takes one character. -/
def feed (scan : Scan) (c : Char) : Option Scan :=
  match scan.mode with
  | .between => scan.start c
  | .number seen =>
    if isNumberChar c then some { scan with mode := .number (c :: seen) }
    else scan.close.bind (·.start c)
  | .word seen =>
    if isLetter c then some { scan with mode := .word (c :: seen) }
    else scan.close.bind (·.start c)
  | .string draft => scan.inString draft c
  | .escape draft => scan.inEscape draft c
  | .unit draft missing value => scan.inUnit draft missing value c

/-- The tokens read, if the text may end here. -/
def finish (scan : Scan) : Option (List Token) := do
  let closed ← scan.close
  if closed.mode = .between then return closed.tokens.reverse else none

end Scan

def tokens (text : List Char) : Option (List Token) :=
  (text.foldlM Scan.feed {}).bind Scan.finish

end Switchboard.Json
