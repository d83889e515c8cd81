import Switchboard.Call.Number

/-!
LED commands: an action and the target it acts on. Five call numbers carry commands as raw
arguments; setting needs four values in three arguments and packs the last two into one word.
-/
namespace Switchboard.Led

/-- A place as call arguments give it, not yet known to exist. -/
structure Target where
  kind : Int32
  role : Int32
  index : Int32
  deriving DecidableEq

/-- What setting a light asks for. -/
structure Setting where
  target : Target
  state : Bool
  deriving DecidableEq

/-- Bits 16 to 23 hold the index and the bits below them the state. -/
def pack (index : UInt8) (state : Bool) : Int32 :=
  Int32.ofNat (index.toNat * 65536 + state.toNat)

/-- Any set bit among the low sixteen means on; bits above the index are ignored. -/
def unpack (arguments : Arguments) : Setting :=
  let word := arguments.third.toBitVec
  { target :=
      { kind := arguments.first
        role := arguments.second
        index := Int32.ofNat (word.extractLsb' 16 8).toNat }
    state := word.extractLsb' 0 16 != 0 }

/-- States are logical: whether a pin is active low concerns only the bank. -/
inductive Action where
  | write (state : Bool)
  | toggle
  | read
  deriving DecidableEq

structure Command where
  action : Action
  target : Target
  deriving DecidableEq

/-- The calls that carry LED commands. -/
inductive Operation where
  | on
  | off
  | toggle
  | set
  | get
  deriving DecidableEq

namespace Operation

/-- In the order in which they are installed. -/
def all : List Operation := [on, off, toggle, set, get]

def number : Operation → CallNumber
  | on => .ledOn
  | off => .ledOff
  | toggle => .ledToggle
  | set => .ledSet
  | get => .ledGet

/-- What an operation does. Only setting looks at the state that is asked for. -/
def action (operation : Operation) (state : Bool) : Action :=
  match operation with
  | on => .write true
  | off => .write false
  | toggle => .toggle
  | set => .write state
  | get => .read

/-- What the raw arguments of a call ask for. Only setting packs two values into the last one. -/
def setting (operation : Operation) (arguments : Arguments) : Setting :=
  match operation with
  | set => unpack arguments
  | _ => ⟨⟨arguments.first, arguments.second, arguments.third⟩, false⟩

/-- The command that the raw arguments of a call stand for. -/
def command (operation : Operation) (arguments : Arguments) : Command :=
  let setting := operation.setting arguments
  ⟨operation.action setting.state, setting.target⟩

end Operation

def Setting.debugText (setting : Setting) : String :=
  "LedSetArgs \x7b target: LedTarget \x7b kind: " ++ toString setting.target.kind.toInt ++
    ", role: " ++ toString setting.target.role.toInt ++
    ", index: " ++ toString setting.target.index.toInt ++
    " \x7d, state: " ++ toString setting.state ++ " \x7d"

end Switchboard.Led
