/-!
Hexadecimal text: digits are read in either case and written in lower case, as the shortest form
of a number or as the fixed form of a 16-bit word behind the marker that opens a numeral.
-/
namespace Switchboard.Hex

/-- The value of a digit in either case. -/
def digit? (c : Char) : Option Nat :=
  if '0' ≤ c ∧ c ≤ '9' then some (c.toNat - '0'.toNat)
  else if 'a' ≤ c ∧ c ≤ 'f' then some (c.toNat - 'a'.toNat + 10)
  else if 'A' ≤ c ∧ c ≤ 'F' then some (c.toNat - 'A'.toNat + 10)
  else none

/-- The fewest digits, at least one. -/
def digits (n : Nat) : List Char := Nat.toDigits 16 n

/-- All four digits of a word. -/
def fourDigits (word : UInt16) : List Char :=
  let n := word.toNat
  [(n / 4096 % 16).digitChar, (n / 256 % 16).digitChar, (n / 16 % 16).digitChar,
    (n % 16).digitChar]

/-- A call number as it stands in messages and in source text, such as `0x0100`. -/
def word (word : UInt16) : String := "0x" ++ String.ofList (fourDigits word)

/-- A call argument, shown as the 32-bit pattern it is. -/
def pattern (argument : Int32) : String := "0x" ++ String.ofList (digits argument.toUInt32.toNat)

/-- Two digits for each byte and no marker. -/
def bytes (data : List UInt8) : String :=
  String.ofList (data.flatMap fun b => [(b.toNat / 16).digitChar, (b.toNat % 16).digitChar])

end Switchboard.Hex
