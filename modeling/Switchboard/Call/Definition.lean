import Switchboard.Call.Number
import Switchboard.Call.Numeral

/-!
Definitions give calls their numbers. A list of definitions is sound if every value is a numeral
in the standard range and no name and no number is given twice; otherwise the first definition at
fault is reported.
-/
namespace Switchboard

structure Definition where
  name : String
  /-- The number as it is written. -/
  value : String
  description : String
  deriving DecidableEq

/-- What is wrong with one definition. -/
inductive Fault where
  | badValue (definition : Definition) (error : NumeralError)
  | outside (name : String) (number : CallNumber)
  | repeatedName (name : String)
  | repeatedNumber (number : CallNumber) (name : String)
  deriving DecidableEq

namespace Fault

def message : Fault → String
  | badValue definition error =>
    "Invalid value '" ++ definition.value ++ "' for " ++ definition.name ++ ": " ++ error.message
  | outside name number =>
    name ++ " = " ++ Hex.word number ++ " is outside the standard range."
  | repeatedName name => "Duplicated SYS name " ++ name ++ "."
  | repeatedNumber number name =>
    "Duplicated SYS value " ++ Hex.word number ++ " (" ++ name ++ ")."

end Fault

namespace Definition

def leastNumber : CallNumber := 0x0100

def greatestNumber : CallNumber := 0x0fff

/-- Judges one definition against the names and numbers that are taken: its value, its range, its
name and its number, in this order. -/
def judge (names : List String) (numbers : List CallNumber) (definition : Definition) :
    Except Fault CallNumber :=
  match Numeral.read definition.value with
  | .error error => .error (.badValue definition error)
  | .ok number =>
    if number < leastNumber ∨ greatestNumber < number then
      .error (.outside definition.name number)
    else if definition.name ∈ names then .error (.repeatedName definition.name)
    else if number ∈ numbers then .error (.repeatedNumber number definition.name)
    else .ok number

/-- Judges definition after definition; each one accepted takes its name and number. -/
def judgeAll (names : List String) (numbers : List CallNumber) :
    List Definition → Except Fault (List CallNumber)
  | [] => .ok []
  | definition :: rest => do
    let number ← definition.judge names numbers
    let others ← judgeAll (definition.name :: names) (number :: numbers) rest
    return number :: others

/-- The numbers of a sound list, in order. -/
def validate (definitions : List Definition) : Except Fault (List CallNumber) :=
  judgeAll [] [] definitions

end Definition

end Switchboard
