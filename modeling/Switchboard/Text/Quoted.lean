import Switchboard.Text.Extending
import Switchboard.Text.Hex
import Switchboard.Text.Unprintable

/-!
Quoted string literals on one line. A character that could not be read back from the page, or that
would end the literal, is written as an escape; everything else stands for itself.
-/
namespace Switchboard.Quoted

def within (ranges : List (List (Nat × Nat))) (n : Nat) : Bool :=
  ranges.any fun part => part.any fun (low, high) => low ≤ n && n ≤ high

/-- Whether a character shows up as itself, on its own. Plain letters need no table. -/
def shows (c : Char) : Bool :=
  let n := c.toNat
  (0x20 ≤ n && n < 0x7f) || !(within Unprintable.ranges n || within Extending.ranges n)

/-- The written form of one character. -/
def escape (c : Char) : List Char :=
  if c = '"' then ['\\', '"']
  else if c = '\\' then ['\\', '\\']
  else if c = '\t' then ['\\', 't']
  else if c = '\r' then ['\\', 'r']
  else if c = '\n' then ['\\', 'n']
  else if c = '\x00' then ['\\', '0']
  else if shows c then [c]
  else ['\\', 'u', '\x7b'] ++ Hex.digits c.toNat ++ ['\x7d']

def encode (text : List Char) : List Char := '"' :: text.flatMap escape ++ ['"']

def quote (text : String) : String := String.ofList (encode text.toList)

end Switchboard.Quoted
