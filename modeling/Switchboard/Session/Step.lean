import Switchboard.Session.Invoke

/-!
The steps of a session. A step addresses one machine and may name a second one, or a bank, by its
number. Each yields a reply and a new rig; a step that cannot be carried out leaves the rig as it
was.
-/
namespace Switchboard

inductive Request where
  /-- Replaces the board by the one in an image, or takes it away. -/
  | setBoard (image : Option (List UInt8))
  | setBank (bank : Option Nat)
  | registerStandard
  | registerLed (source : Nat)
  | registerCapability (source : Nat) (platform : Int32)
  | invoke (number : CallNumber) (arguments : Arguments)
  | tryInvoke (number : CallNumber) (arguments : Arguments)
  | register (number : CallNumber) (routine : Option Routine)
  | registerRoutine (number : CallNumber) (routine : Routine)
  /-- Puts the entry that `source` has under `number` under `target` here. -/
  | copy (number target : CallNumber) (source : Nat)
  /-- Asks whether `source` under `number` and this machine under `target` have one origin. -/
  | same (number target : CallNumber) (source : Nat)
  | lookup (number : CallNumber)
  | unregister (number : CallNumber)
  | clear
  | count
  | numbers
  | describe
  | platform
  | find (kind role index : UInt8)
  /-- Looks for the device with index 0. -/
  | findDefault (kind role : UInt8)
  | countDevices (kind : UInt8)
  | devices
  | hasBoard
  | led (command : Led.Command)
  | levels (bank : Nat)
  | drive (bank : Nat) (handle : UInt32) (level : Bool)
  deriving DecidableEq

structure Step where
  machine : Nat
  request : Request
  deriving DecidableEq

/-- What a step names although the rig does not have it. -/
inductive Missing where
  | machine
  | source
  | bank
  /-- The machine was assembled from parts and knows no platform. -/
  | platform
  deriving DecidableEq

inductive Reply where
  | nothing
  | value (value : Int32)
  | count (count : Nat)
  | flag (flag : Bool)
  | numbers (numbers : List CallNumber)
  | text (text : String)
  | platform (id : Int32)
  | found (position : Nat) (device : Device)
  | devices (devices : List Device)
  | levels (levels : List (UInt32 × Bool))
  | callError (error : CallError)
  | imageError (error : ImageError)
  | unknownCode (error : UnknownCode)
  | refused (missing : Missing)
  deriving DecidableEq

/-- The one-line text that shows a machine's platform. -/
def platformText (id : Int32) : String :=
  "SysInfo \x7b platform_id: " ++ toString id.toInt ++ " \x7d"

namespace Machine

/-- The kind is judged before the role, and both before the board is searched. -/
def find (machine : Machine) (kind role index : UInt8) : Reply :=
  match Place.ofCodes kind role index with
  | .error error => .unknownCode error
  | .ok place =>
    match machine.devices.locate? place with
    | none => .nothing
    | some (position, device) => .found position device

def countDevices (machine : Machine) (kind : UInt8) : Reply :=
  match Kind.ofCode kind with
  | .error error => .unknownCode error
  | .ok kind => .count (machine.devices.count kind)

end Machine

namespace Rig

/-- Answers without doing anything. -/
def tell (rig : Rig) (reply : Reply) : Turn Reply := ⟨rig, reply, []⟩

/-- Replaces one machine and reports what it noted. -/
def update (rig : Rig) (position : Nat) (change : Machine × List Notice) (reply : Reply) :
    Turn Reply :=
  ⟨rig.putMachine position change.1, reply, rig.write change.2⟩

def setBoard (rig : Rig) (self : Nat) (machine : Machine) (image : Option (List UInt8)) :
    Turn Reply :=
  match machine.setBoard image with
  | .error error => rig.tell (.imageError error)
  | .ok (after, notice) => rig.update self (after, [notice]) (.count after.devices.length)

def register (rig : Rig) (self : Nat) (machine : Machine) (number : CallNumber)
    (routine : Routine) (reply : Reply) : Turn Reply :=
  rig.update self
    (machine.install self number (.custom routine), [machine.registry.notice number]) reply

def copy (rig : Rig) (self : Nat) (machine : Machine) (number target : CallNumber)
    (source : Nat) : Turn Reply :=
  match rig.lookup source number with
  | none => rig.tell (.flag false)
  | some entry =>
    rig.update self (machine.place target entry, [machine.registry.notice target]) (.flag true)

def same (rig : Rig) (machine : Machine) (number target : CallNumber) (source : Nat) : Reply :=
  match rig.lookup source number, machine.registry.get? target with
  | some there, some here => .flag (there.origin == here.origin)
  | _, _ => .nothing

/-- A call whose failure is told as such. -/
def tryCall (rig : Rig) (self : Nat) (number : CallNumber) (arguments : Arguments) :
    Turn Reply :=
  let turn := rig.tryInvoke self number arguments
  match turn.answer with
  | .ok value => ⟨turn.rig, .value value, turn.effects⟩
  | .error error => ⟨turn.rig, .callError error, turn.effects⟩

/-- An LED command that is given directly, without a call number. -/
def ledCommand (rig : Rig) (self : Nat) (command : Led.Command) : Turn Reply :=
  let turn := rig.led self command
  match turn.answer with
  | .ok state => ⟨turn.rig, .flag state, turn.effects⟩
  | .error error => ⟨turn.rig, .callError error, turn.effects⟩

/-- Serves a request to machine number `self`, whose state is `machine`. -/
def serve (rig : Rig) (self : Nat) (machine : Machine) : Request → Turn Reply
  | .setBoard image => rig.setBoard self machine image
  | .setBank bank =>
    if bank.all (· < rig.banks.length) then
      let (after, notice) := machine.setBank bank
      rig.update self (after, [notice]) .nothing
    else rig.tell (.refused .bank)
  | .registerStandard =>
    match machine.platform with
    | none => rig.tell (.refused .platform)
    | some platform => rig.update self (machine.registerStandard self platform) .nothing
  | .registerLed source =>
    if source < rig.machines.length then rig.update self (machine.registerLed self source) .nothing
    else rig.tell (.refused .source)
  | .registerCapability source platform =>
    if source < rig.machines.length then
      rig.update self (machine.registerCapability self source platform) .nothing
    else rig.tell (.refused .source)
  | .invoke number arguments =>
    let turn := rig.invoke self number arguments
    ⟨turn.rig, .value turn.answer, turn.effects⟩
  | .tryInvoke number arguments => rig.tryCall self number arguments
  | .register _ none => rig.tell (.flag false)
  | .register number (some routine) => rig.register self machine number routine (.flag true)
  | .registerRoutine number routine => rig.register self machine number routine .nothing
  | .copy number target source =>
    if source < rig.machines.length then rig.copy self machine number target source
    else rig.tell (.refused .source)
  | .same number target source =>
    if source < rig.machines.length then rig.tell (rig.same machine number target source)
    else rig.tell (.refused .source)
  | .lookup number => rig.tell (.flag (machine.registry.contains number))
  | .unregister number => rig.update self (machine.unregister number, []) .nothing
  | .clear => rig.update self (machine.clear, []) .nothing
  | .count => rig.tell (.count machine.registry.size)
  | .numbers => rig.tell (.numbers machine.registry.keys)
  | .describe => rig.tell (.text machine.registry.debugText)
  | .platform =>
    match machine.platform with
    | none => rig.tell (.refused .platform)
    | some id => rig.tell (.platform id)
  | .find kind role index => rig.tell (machine.find kind role index)
  | .findDefault kind role => rig.tell (machine.find kind role 0)
  | .countDevices kind => rig.tell (machine.countDevices kind)
  | .devices => rig.tell (.devices machine.devices)
  | .hasBoard => rig.tell (.flag machine.board.isSome)
  | .led command => rig.ledCommand self command
  | .levels bank =>
    match rig.banks[bank]? with
    | none => rig.tell (.refused .bank)
    | some bank => rig.tell (.levels bank.levels.entries)
  | .drive bank handle level =>
    match rig.banks[bank]? with
    | none => rig.tell (.refused .bank)
    | some driven => ⟨rig.putBank bank (driven.drive handle level), .nothing, []⟩

/-- Carries out one step. -/
def step (rig : Rig) (step : Step) : Turn Reply :=
  match rig.machines[step.machine]? with
  | none => rig.tell (.refused .machine)
  | some machine => rig.serve step.machine machine step.request

end Rig

end Switchboard
