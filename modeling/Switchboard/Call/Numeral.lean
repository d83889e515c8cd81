import Switchboard.Text.Blank
import Switchboard.Text.Hex

/-!
Hexadecimal numerals of at most sixteen bits, as people write them: blanks around the numeral, any
number of `0x` markers before it and underscores anywhere inside are passed over.
-/
namespace Switchboard

/-- Why a text is not a numeral. -/
inductive NumeralError where
  | empty
  | invalidDigit
  | tooLarge
  deriving DecidableEq

def NumeralError.message : NumeralError → String
  | empty => "cannot parse integer from empty string"
  | invalidDigit => "invalid digit found in string"
  | tooLarge => "number too large to fit in target type"

namespace Numeral

def dropMarkers : List Char → List Char
  | '0' :: 'x' :: rest => dropMarkers rest
  | text => text

/-- What is left to read once blanks, markers and underscores are gone. -/
def clean (text : List Char) : List Char := (dropMarkers (trimBlank text)).filter (· ≠ '_')

/-- Digits after those worth `value`. The first character that is no digit, or that makes the
number too large, decides. -/
def digits (value : Nat) : List Char → Except NumeralError Nat
  | [] => .ok value
  | c :: rest =>
    match Hex.digit? c with
    | none => .error .invalidDigit
    | some d => if value * 16 + d < 65536 then digits (value * 16 + d) rest else .error .tooLarge

/-- One plus sign may stand first, but no sign stands alone and none else is read. -/
def unmarked (text : List Char) : Except NumeralError Nat :=
  match text with
  | [] => .error .empty
  | '+' :: c :: rest => digits 0 (c :: rest)
  | text => digits 0 text

def read (text : String) : Except NumeralError UInt16 :=
  (unmarked (clean text.toList)).map UInt16.ofNat

end Numeral

end Switchboard
