import Switchboard.Session.Run

/-!
# What one turn can do

Each operation on a rig has its one lemma here, and later proofs cite these and open no
operation. An LED command either fails and changes nothing, or moves one pin of the bank that
its owner points at. A call runs the entry under its number, or nothing.
-/
namespace Switchboard

@[simp] theorem Rig.write_nil (rig : Rig) : rig.write [] = [] := rfl

/-- What is written is a matter of the filter alone. -/
theorem Rig.write_congr {one other : Rig} (h : one.filter = other.filter) (noted : List Notice) :
    one.write noted = other.write noted := by
  rw [write, write, h]

/-- Notices put no question to a bank. -/
@[simp] theorem Rig.write_calls (rig : Rig) (noted : List Notice) :
    (rig.write noted).filterMap Effect.call? = [] := by
  rw [write, List.filterMap_map]
  exact List.filterMap_eq_nil_iff.2 fun _ _ => rfl

/-- The same turn seen from further out: the answer in another form, and what is written of it. -/
def Turn.finish {α β : Type} (turn : Turn α) (form : α → β) (noted : α → List Notice) : Turn β :=
  ⟨turn.rig, form turn.answer, turn.effects ++ turn.rig.write (noted turn.answer)⟩

@[simp] theorem Turn.finish_rig {α β : Type} (turn : Turn α) (form : α → β)
    (noted : α → List Notice) : (turn.finish form noted).rig = turn.rig := rfl

@[simp] theorem Turn.finish_calls {α β : Type} (turn : Turn α) (form : α → β)
    (noted : α → List Notice) :
    (turn.finish form noted).effects.filterMap Effect.call? =
      turn.effects.filterMap Effect.call? := by
  rw [Turn.finish, List.filterMap_append, Rig.write_calls, List.append_nil]

/-- What a turn comes to, apart from its notices: the answer, the rig and the calls to banks. -/
def Turn.outcome {α : Type} (turn : Turn α) : α × Rig × List (Nat × PinCall) :=
  (turn.answer, turn.rig, turn.effects.filterMap Effect.call?)

theorem Turn.finish_outcome {α β : Type} (turn : Turn α) (form : α → β)
    (noted : α → List Notice) :
    (turn.finish form noted).outcome =
      (form turn.answer, turn.rig, turn.effects.filterMap Effect.call?) := by
  rw [outcome, finish_calls]
  rfl

/-- The call that a request makes, whichever way it wants to be told of a failure. -/
def Request.call? : Request → Option (CallNumber × Arguments)
  | .invoke number arguments => some (number, arguments)
  | .tryInvoke number arguments => some (number, arguments)
  | _ => none

/-- An image that is taken changes the board and nothing else. -/
theorem Machine.setBoard_ok {machine after : Machine} {image : Option (List UInt8)}
    {notice : Notice} (h : machine.setBoard image = .ok (after, notice)) :
    ∃ board, after = { machine with board := board } := by
  cases image with
  | none =>
    cases h
    exact ⟨none, rfl⟩
  | some bytes =>
    cases hd : Board.decode bytes with
    | error error =>
      rw [Machine.setBoard, hd] at h
      cases h
    | ok board =>
      rw [Machine.setBoard, hd] at h
      cases h
      exact ⟨some board, rfl⟩

namespace Rig

@[simp] theorem putMachine_machines (rig : Rig) (position : Nat) (machine : Machine) :
    (rig.putMachine position machine).machines = rig.machines.set position machine := rfl

@[simp] theorem putMachine_banks (rig : Rig) (position : Nat) (machine : Machine) :
    (rig.putMachine position machine).banks = rig.banks := rfl

@[simp] theorem putBank_machines (rig : Rig) (position : Nat) (bank : PinBank) :
    (rig.putBank position bank).machines = rig.machines := rfl

@[simp] theorem putBank_banks (rig : Rig) (position : Nat) (bank : PinBank) :
    (rig.putBank position bank).banks = rig.banks.set position bank := rfl

/-- Putting back what is there changes nothing. -/
theorem putMachine_self {rig : Rig} {position : Nat} {machine : Machine}
    (h : rig.machines[position]? = some machine) : rig.putMachine position machine = rig := by
  obtain ⟨hlt, rfl⟩ := List.getElem?_eq_some_iff.1 h
  rw [putMachine, List.set_getElem_self]

theorem putMachine_get {rig : Rig} {position : Nat} {found : Machine}
    (h : rig.machines[position]? = some found) (machine : Machine) :
    (rig.putMachine position machine).machines[position]? = some machine := by
  have hlt := (List.getElem?_eq_some_iff.1 h).1
  rw [putMachine_machines, List.getElem?_set_self hlt]

/-- A view of the machines does not see one replaced by another that looks the same. -/
theorem putMachine_map {β : Type} (view : Machine → β) {rig : Rig} {position i : Nat}
    {before after : Machine} (h : rig.machines[position]? = some before)
    (hview : position = i → view after = view before) :
    (rig.putMachine position after).machines[i]?.map view = rig.machines[i]?.map view := by
  by_cases hi : position = i
  · subst hi
    rw [putMachine_get h, h, Option.map_some, Option.map_some, hview rfl]
  · rw [putMachine_machines, List.getElem?_set_ne hi]

theorem putBank_self {rig : Rig} {position : Nat} {bank : PinBank}
    (h : rig.banks[position]? = some bank) : rig.putBank position bank = rig := by
  obtain ⟨hlt, rfl⟩ := List.getElem?_eq_some_iff.1 h
  rw [putBank, List.set_getElem_self]

theorem lookup_eq (rig : Rig) (machine : Nat) (number : CallNumber) :
    rig.lookup machine number = (rig.machines[machine]?).bind (·.registry.get? number) := rfl

theorem lookup_of_machine {rig : Rig} {self : Nat} {machine : Machine}
    (h : rig.machines[self]? = some machine) (number : CallNumber) :
    rig.lookup self number = machine.registry.get? number := by
  rw [lookup_eq, h, Option.bind_some]

theorem bankOf?_eq_some_iff (rig : Rig) (machine : Machine) (position : Nat) (bank : PinBank) :
    rig.bankOf? machine = some (position, bank) ↔
      machine.bank = some position ∧ rig.banks[position]? = some bank := by
  simp only [bankOf?, Option.bind_eq_bind, Option.bind_eq_some_iff, Option.pure_def,
    Option.some.injEq, Prod.mk.injEq]
  constructor
  · rintro ⟨p, hp, b, hb, rfl, rfl⟩
    exact ⟨hp, hb⟩
  · rintro ⟨hp, hb⟩
    exact ⟨position, hp, bank, hb, rfl, rfl⟩

/-- The turn in which a bank was asked and moved. -/
def moved (rig : Rig) (position : Nat) (motion : Led.Motion) : Turn (Except CallError Bool) :=
  ⟨rig.putBank position motion.bank, .ok motion.answer, motion.calls.map (.pin position)⟩

theorem perform_eq (command : Led.Command) (bank : PinBank) (board : Board) :
    command.perform bank board =
      (Led.locate board command.target).map (command.action.perform bank) := by
  unfold Led.Command.perform
  cases Led.locate board command.target <;> rfl

theorem led_of_located {rig : Rig} {owner : Nat} {command : Led.Command} {machine : Machine}
    {position : Nat} {bank : PinBank} {device : Device} (hm : rig.machines[owner]? = some machine)
    (hp : machine.bank = some position) (hb : rig.banks[position]? = some bank)
    (hd : Led.locate machine.devices command.target = .ok device) :
    rig.led owner command = rig.moved position (command.action.perform bank device) := by
  have hbank := (bankOf?_eq_some_iff rig machine position bank).2 ⟨hp, hb⟩
  simp only [led, hm, hbank, perform_eq, hd]
  rfl

/-- No failure of a command shows in the number that stands for it. -/
theorem locate_error_code {board : Board} {target : Led.Target} {error : CallError}
    (h : Led.locate board target = .error error) : error.code = 0 := by
  unfold Led.locate at h
  split at h
  · split at h
    · cases h
      rfl
    · cases h
  · cases h
    rfl

/-- A command without a bank or without a device changes nothing and asks nothing. It fails alike
whatever the banks hold. -/
theorem led_of_unaimed {rig : Rig} {owner : Nat} (command : Led.Command)
    (h : ∀ machine position bank device, rig.machines[owner]? = some machine →
      machine.bank = some position → rig.banks[position]? = some bank →
      Led.locate machine.devices command.target ≠ .ok device) :
    ∃ error : CallError, error.code = 0 ∧
      ∀ banks : List PinBank, banks.length = rig.banks.length →
        led { rig with banks := banks } owner command =
          ⟨{ rig with banks := banks }, .error error, []⟩ := by
  cases hm : rig.machines[owner]? with
  | none =>
    refine ⟨.noBank, rfl, fun banks _ => ?_⟩
    simp only [led, hm]
  | some machine =>
    by_cases hbank : ∃ position, machine.bank = some position ∧ position < rig.banks.length
    · obtain ⟨position, hp, hlt⟩ := hbank
      cases hd : Led.locate machine.devices command.target with
      | ok device =>
        exact absurd hd (h machine position _ device hm hp (List.getElem?_eq_getElem hlt))
      | error error =>
        refine ⟨error, locate_error_code hd, fun banks hbanks => ?_⟩
        have hb : bankOf? { rig with banks := banks } machine = some (position, _) :=
          (bankOf?_eq_some_iff _ _ _ _).2 ⟨hp, List.getElem?_eq_getElem (hbanks ▸ hlt)⟩
        simp only [led, hm, hb, perform_eq, hd, Except.map]
    · refine ⟨.noBank, rfl, fun banks hbanks => ?_⟩
      have hb : bankOf? { rig with banks := banks } machine = none := by
        apply Option.eq_none_iff_forall_ne_some.2
        rintro ⟨position, bank⟩ hsome
        obtain ⟨hp, hfound⟩ := (bankOf?_eq_some_iff _ _ _ _).1 hsome
        exact hbank ⟨position, hp, hbanks ▸ (List.getElem?_eq_some_iff.1 hfound).1⟩
      simp only [led, hm, hb]

theorem led_of_missed {rig : Rig} {owner : Nat} {command : Led.Command}
    (h : ∀ machine position bank device, rig.machines[owner]? = some machine →
      machine.bank = some position → rig.banks[position]? = some bank →
      Led.locate machine.devices command.target ≠ .ok device) :
    ∃ error : CallError, error.code = 0 ∧ rig.led owner command = ⟨rig, .error error, []⟩ := by
  obtain ⟨error, hcode, hled⟩ := led_of_unaimed command h
  exact ⟨error, hcode, hled rig.banks rfl⟩

/-- The two ways in which a command can end. -/
theorem led_cases (rig : Rig) (owner : Nat) (command : Led.Command) :
    (∃ error : CallError, error.code = 0 ∧ rig.led owner command = ⟨rig, .error error, []⟩) ∨
    ∃ machine position bank device, rig.machines[owner]? = some machine ∧
      machine.bank = some position ∧ rig.banks[position]? = some bank ∧
      Led.locate machine.devices command.target = .ok device ∧
      rig.led owner command = rig.moved position (command.action.perform bank device) := by
  by_cases h : ∃ machine position bank device, rig.machines[owner]? = some machine ∧
      machine.bank = some position ∧ rig.banks[position]? = some bank ∧
      Led.locate machine.devices command.target = .ok device
  · obtain ⟨machine, position, bank, device, hm, hp, hb, hd⟩ := h
    exact Or.inr ⟨machine, position, bank, device, hm, hp, hb, hd, led_of_located hm hp hb hd⟩
  · refine Or.inl (led_of_missed ?_)
    intro machine position bank device hm hp hb hd
    exact h ⟨machine, position, bank, device, hm, hp, hb, hd⟩

/-- A command moves pins and never a machine. -/
@[simp] theorem led_machines (rig : Rig) (owner : Nat) (command : Led.Command) :
    (rig.led owner command).rig.machines = rig.machines := by
  rcases rig.led_cases owner command with ⟨error, -, h⟩ | ⟨_, position, bank, device, -, -, -, -, h⟩
  · rw [h]
  · rw [h]
    rfl

/-- How the end of an LED command looks to the caller of a number. -/
def ledValue : Except CallError Bool → Int32
  | .ok state => if state then 1 else 0
  | .error error => error.code

def ledNotices (number : CallNumber) (arguments : Arguments) :
    Except CallError Bool → List Notice
  | .ok _ => []
  | .error error => [.ledFailed number arguments error]

def callValue : Except CallError Int32 → Int32
  | .ok value => value
  | .error error => error.code

def callNotices (number : CallNumber) : Except CallError Int32 → List Notice
  | .ok _ => []
  | .error error => [.callFailed number error]

def callReply : Except CallError Int32 → Reply
  | .ok value => .value value
  | .error error => .callError error

def ledReply : Except CallError Bool → Reply
  | .ok state => .flag state
  | .error error => .callError error

theorem ledCall_eq (rig : Rig) (owner : Nat) (operation : Led.Operation) (number : CallNumber)
    (arguments : Arguments) :
    rig.ledCall owner operation number arguments =
      (rig.led owner (operation.command arguments)).finish ledValue
        (ledNotices number arguments) := by
  cases h : (rig.led owner (operation.command arguments)).answer with
  | ok state => simp [ledCall, Turn.finish, h, ledValue, ledNotices]
  | error error => simp [ledCall, Turn.finish, h, ledValue, ledNotices]

theorem invoke_eq (rig : Rig) (machine : Nat) (number : CallNumber) (arguments : Arguments) :
    rig.invoke machine number arguments =
      (rig.tryInvoke machine number arguments).finish callValue (callNotices number) := by
  cases h : (rig.tryInvoke machine number arguments).answer with
  | ok value => simp [invoke, Turn.finish, h, callValue, callNotices]
  | error error => simp [invoke, Turn.finish, h, callValue, callNotices]

theorem tryCall_eq (rig : Rig) (self : Nat) (number : CallNumber) (arguments : Arguments) :
    rig.tryCall self number arguments =
      (rig.tryInvoke self number arguments).finish callReply (fun _ => []) := by
  cases h : (rig.tryInvoke self number arguments).answer with
  | ok value => simp [tryCall, Turn.finish, h, callReply]
  | error error => simp [tryCall, Turn.finish, h, callReply]

theorem ledCommand_eq (rig : Rig) (self : Nat) (command : Led.Command) :
    rig.ledCommand self command = (rig.led self command).finish ledReply (fun _ => []) := by
  cases h : (rig.led self command).answer with
  | ok state => simp [ledCommand, Turn.finish, h, ledReply]
  | error error => simp [ledCommand, Turn.finish, h, ledReply]

theorem tryInvoke_of_lookup {rig : Rig} {machine : Nat} {number : CallNumber} {entry : Entry}
    (h : rig.lookup machine number = some entry) (arguments : Arguments) :
    rig.tryInvoke machine number arguments =
      (rig.dispatch entry number arguments).finish .ok (fun _ => []) := by
  simp [tryInvoke, h, Turn.finish]

theorem tryInvoke_of_absent {rig : Rig} {machine : Nat} {number : CallNumber}
    (h : rig.lookup machine number = none) (arguments : Arguments) :
    rig.tryInvoke machine number arguments = ⟨rig, .error .noHandler, []⟩ := by
  simp only [tryInvoke, h]

/-- A call that is answered adds nothing to what its handler does. -/
theorem invoke_of_lookup {rig : Rig} {machine : Nat} {number : CallNumber} {entry : Entry}
    (h : rig.lookup machine number = some entry) (arguments : Arguments) :
    rig.invoke machine number arguments = rig.dispatch entry number arguments := by
  simp [invoke_eq, tryInvoke_of_lookup h, Turn.finish, callValue, callNotices]

/-- A call of an LED handler is the command on its owner, with a number for an answer. -/
theorem invoke_of_led {rig : Rig} {machine owner : Nat} {number : CallNumber} {origin : Origin}
    {operation : Led.Operation}
    (h : rig.lookup machine number = some ⟨origin, .led operation owner⟩) (arguments : Arguments) :
    rig.invoke machine number arguments =
      (rig.led owner (operation.command arguments)).finish ledValue
        (ledNotices number arguments) := by
  rw [invoke_of_lookup h, ← ledCall_eq]
  rfl

theorem invoke_of_absent {rig : Rig} {machine : Nat} {number : CallNumber}
    (h : rig.lookup machine number = none) (arguments : Arguments) :
    rig.invoke machine number arguments =
      ⟨rig, -1, rig.write [.callFailed number .noHandler]⟩ := by
  rw [invoke_eq, tryInvoke_of_absent h]
  rfl

section Keeps

variable {β : Type} (view : Machine → β)
  (hview : ∀ machine serial, view (Machine.tally machine serial) = view machine)

include hview in
theorem tally_keeps (rig : Rig) (origin : Origin) (i : Nat) :
    (rig.tally origin).rig.machines[i]?.map view = rig.machines[i]?.map view := by
  unfold tally
  cases hm : rig.machines[origin.machine]? with
  | none => rfl
  | some home => exact putMachine_map view hm fun _ => hview home origin.serial

include hview in
/-- A call counts a run at most: any view of a machine without its tallies stays. -/
theorem dispatch_keeps (rig : Rig) (entry : Entry) (number : CallNumber) (arguments : Arguments)
    (i : Nat) :
    (rig.dispatch entry number arguments).rig.machines[i]?.map view =
      rig.machines[i]?.map view := by
  unfold dispatch
  split
  · rw [ledCall_eq, Turn.finish_rig, led_machines]
  · rfl
  · rfl
  · rfl
  · exact tally_keeps view hview rig entry.origin i
  · rfl

include hview in
theorem tryInvoke_keeps (rig : Rig) (machine : Nat) (number : CallNumber) (arguments : Arguments)
    (i : Nat) :
    (rig.tryInvoke machine number arguments).rig.machines[i]?.map view =
      rig.machines[i]?.map view := by
  cases h : rig.lookup machine number with
  | none => rw [tryInvoke_of_absent h]
  | some entry =>
    rw [tryInvoke_of_lookup h, Turn.finish_rig]
    exact dispatch_keeps view hview rig entry number arguments i

include hview in
theorem invoke_keeps (rig : Rig) (machine : Nat) (number : CallNumber) (arguments : Arguments)
    (i : Nat) :
    (rig.invoke machine number arguments).rig.machines[i]?.map view =
      rig.machines[i]?.map view := by
  rw [invoke_eq, Turn.finish_rig]
  exact tryInvoke_keeps view hview rig machine number arguments i

end Keeps

theorem step_of_machine {rig : Rig} {self : Nat} {machine : Machine}
    (h : rig.machines[self]? = some machine) (request : Request) :
    rig.step ⟨self, request⟩ = rig.serve self machine request := by
  simp only [step, h]

theorem step_of_missing {rig : Rig} {self : Nat} (h : rig.machines[self]? = none)
    (request : Request) : rig.step ⟨self, request⟩ = rig.tell (.refused .machine) := by
  simp only [step, h]

/-- A call changes what its handler changes, whichever way it is told of a failure. -/
theorem step_rig_of_call {rig : Rig} {step : Step} {number : CallNumber} {arguments : Arguments}
    (h : step.request.call? = some (number, arguments)) :
    (rig.step step).rig = (rig.tryInvoke step.machine number arguments).rig := by
  obtain ⟨self, request⟩ := step
  cases hm : rig.machines[self]? with
  | none =>
    have habsent : rig.lookup self number = none := by rw [lookup_eq, hm, Option.bind_none]
    rw [step_of_missing hm, tryInvoke_of_absent habsent]
    rfl
  | some machine =>
    rw [step_of_machine hm]
    cases request with
    | invoke n a =>
      cases h
      change (rig.invoke self number arguments).rig = _
      rw [invoke_eq, Turn.finish_rig]
    | tryInvoke n a =>
      cases h
      change (rig.tryCall self number arguments).rig = _
      rw [tryCall_eq, Turn.finish_rig]
    | _ => cases h

/-- A call under a number with an entry is the work of its handler, however it is made. -/
theorem step_of_call {rig : Rig} {step : Step} {number : CallNumber} {arguments : Arguments}
    {entry : Entry} (hc : step.request.call? = some (number, arguments))
    (hl : rig.lookup step.machine number = some entry) :
    let turn := rig.dispatch entry number arguments
    rig.step step = ⟨turn.rig, .value turn.answer, turn.effects⟩ := by
  intro turn
  obtain ⟨self, request⟩ := step
  have hfound := (lookup_eq rig self number).symm.trans hl
  obtain ⟨found, hm, -⟩ := Option.bind_eq_some_iff.1 hfound
  rw [step_of_machine hm]
  cases request with
  | invoke n a =>
    cases hc
    simp only [serve, invoke_of_lookup hl]
    rfl
  | tryInvoke n a =>
    cases hc
    simp only [serve, tryCall, tryInvoke_of_lookup hl, Turn.finish, write_nil, List.append_nil]
    rfl
  | _ => cases hc

/-- A call under a number without an entry runs nothing and asks no bank. -/
theorem step_of_absent {rig : Rig} {self : Nat} {machine : Machine}
    (hm : rig.machines[self]? = some machine) {number : CallNumber}
    (h : rig.lookup self number = none) (arguments : Arguments) :
    rig.step ⟨self, .invoke number arguments⟩ =
      ⟨rig, .value (-1), rig.write [.callFailed number .noHandler]⟩ ∧
    rig.step ⟨self, .tryInvoke number arguments⟩ = ⟨rig, .callError .noHandler, []⟩ := by
  rw [step_of_machine hm, step_of_machine hm]
  constructor
  · simp only [serve, invoke_of_absent h]
  · simp only [serve, tryCall, tryInvoke_of_absent h]

/-- A call of an LED handler is the command on its owner, with a number for an answer. -/
theorem step_of_led_call {rig : Rig} {step : Step} {number : CallNumber} {arguments : Arguments}
    {origin : Origin} {operation : Led.Operation} {owner : Nat}
    (hc : step.request.call? = some (number, arguments))
    (hl : rig.lookup step.machine number = some ⟨origin, .led operation owner⟩) :
    let turn := rig.led owner (operation.command arguments)
    rig.step step = ⟨turn.rig, .value (ledValue turn.answer),
      turn.effects ++ turn.rig.write (ledNotices number arguments turn.answer)⟩ := by
  intro turn
  have hdispatch : rig.dispatch ⟨origin, .led operation owner⟩ number arguments =
      turn.finish ledValue (ledNotices number arguments) := ledCall_eq ..
  rw [step_of_call hc hl, hdispatch]
  rfl

/-- The LED command that a step runs, and the machine on whose board and bank it runs. -/
def ledWork? (rig : Rig) (step : Step) : Option (Nat × Led.Command) :=
  match step.request with
  | .led command => some (step.machine, command)
  | request => do
    let (number, arguments) ← request.call?
    let entry ← rig.lookup step.machine number
    match entry.handler with
    | .led operation owner => some (owner, operation.command arguments)
    | _ => none

theorem ledWork?_of_led_call {rig : Rig} {step : Step} {number : CallNumber}
    {arguments : Arguments} {origin : Origin} {operation : Led.Operation} {owner : Nat}
    (hc : step.request.call? = some (number, arguments))
    (hl : rig.lookup step.machine number = some ⟨origin, .led operation owner⟩) :
    rig.ledWork? step = some (owner, operation.command arguments) := by
  unfold ledWork?
  split
  · rename_i command hrequest
    rw [hrequest] at hc
    cases hc
  · rw [hc]
    simp only [Option.bind_eq_bind, Option.bind_some, hl]

theorem ledWork?_of_call {rig : Rig} {step : Step} {owner : Nat} {command : Led.Command}
    (h : rig.ledWork? step = some (owner, command)) :
    step.request = .led command ∧ step.machine = owner ∨
    ∃ number arguments origin operation, step.request.call? = some (number, arguments) ∧
      rig.lookup step.machine number = some ⟨origin, .led operation owner⟩ ∧
      operation.command arguments = command := by
  unfold ledWork? at h
  split at h
  · rename_i direct hreq
    cases h
    exact Or.inl ⟨hreq, rfl⟩
  · obtain ⟨⟨number, arguments⟩, hcall, h⟩ := Option.bind_eq_some_iff.1 h
    obtain ⟨⟨origin, handler⟩, hlookup, h⟩ := Option.bind_eq_some_iff.1 h
    cases handler with
    | led operation source =>
      cases h
      exact Or.inr ⟨number, arguments, origin, operation, hcall, hlookup, rfl⟩
    | _ => cases h

/-- A step that runs an LED command leaves the rig as the command alone does. -/
theorem step_rig_of_ledWork {rig : Rig} {step : Step} {owner : Nat} {command : Led.Command}
    (h : rig.ledWork? step = some (owner, command)) :
    (rig.step step).rig = (rig.led owner command).rig := by
  rcases ledWork?_of_call h with ⟨hreq, rfl⟩ | ⟨number, arguments, origin, operation, hc, hl, rfl⟩
  · obtain ⟨self, request⟩ := step
    cases hreq
    cases hm : rig.machines[self]? with
    | none =>
      rw [step_of_missing hm]
      simp only [led, hm, tell]
    | some machine =>
      rw [step_of_machine hm]
      change (rig.ledCommand self command).rig = _
      rw [ledCommand_eq, Turn.finish_rig]
  · rw [step_rig_of_call hc, tryInvoke_of_lookup hl, Turn.finish_rig]
    change (rig.ledCall owner operation number arguments).rig = _
    rw [ledCall_eq, Turn.finish_rig]

@[simp] theorem after_nil (rig : Rig) : rig.after [] = rig := rfl

@[simp] theorem after_cons (rig : Rig) (step : Step) (rest : List Step) :
    rig.after (step :: rest) = (rig.step step).rig.after rest := rfl

theorem after_append (rig : Rig) (before rest : List Step) :
    rig.after (before ++ rest) = (rig.after before).after rest := by
  rw [after, List.foldl_append]
  rfl

@[simp] theorem after_snoc (rig : Rig) (before : List Step) (step : Step) :
    rig.after (before ++ [step]) = ((rig.after before).step step).rig := by
  rw [after_append]
  rfl

theorem length_run (rig : Rig) (steps : List Step) : (rig.run steps).length = steps.length := by
  induction steps generalizing rig with
  | nil => rfl
  | cons step rest ih => rw [run, List.length_cons, List.length_cons, ih]

theorem run_append (rig : Rig) (before rest : List Step) :
    rig.run (before ++ rest) = rig.run before ++ (rig.after before).run rest := by
  induction before generalizing rig with
  | nil => rfl
  | cons step before ih =>
    rw [List.cons_append, run, run, ih, after_cons]
    rfl

end Rig

private theorem Session.build_of_mem {assemblies : List Assembly} {machines : List Machine}
    (h : assemblies.mapM Assembly.build = .ok machines) {machine : Machine}
    (hm : machine ∈ machines) : ∃ assembly ∈ assemblies, assembly.build = .ok machine := by
  induction assemblies generalizing machines with
  | nil =>
    cases h
    cases hm
  | cons assembly rest ih =>
    rw [List.mapM_cons] at h
    cases hfirst : assembly.build with
    | error error =>
      rw [hfirst] at h
      cases h
    | ok first =>
      cases hrest : rest.mapM Assembly.build with
      | error error =>
        rw [hfirst, hrest] at h
        cases h
      | ok others =>
        rw [hfirst, hrest] at h
        cases h
        rcases List.mem_cons.1 hm with rfl | hm
        · exact ⟨assembly, List.mem_cons_self, hfirst⟩
        · obtain ⟨other, hother, hbuild⟩ := ih hrest hm
          exact ⟨other, List.mem_cons_of_mem _ hother, hbuild⟩

theorem Assembly.build_fresh {assembly : Assembly} {machine : Machine}
    (h : assembly.build = .ok machine) :
    ∃ platform board, machine = { platform := platform, board := board } := by
  cases assembly with
  | runtime platform =>
    cases h
    exact ⟨some platform, none, rfl⟩
  | parts image =>
    cases image with
    | none =>
      cases h
      exact ⟨none, none, rfl⟩
    | some bytes =>
      cases hd : Board.decode bytes with
      | error error =>
        rw [Assembly.build, hd] at h
        cases h
      | ok board =>
        rw [Assembly.build, hd] at h
        cases h
        exact ⟨none, some board, rfl⟩

/-- A session starts without banks and with empty registries. -/
theorem Session.machine_fresh {session : Session} {rig : Rig} (h : session.rig = .ok rig)
    {i : Nat} {machine : Machine} (hm : rig.machines[i]? = some machine) :
    ∃ platform board, machine = { platform := platform, board := board } := by
  cases hb : session.machines.mapM Assembly.build with
  | error error =>
    rw [Session.rig, hb] at h
    cases h
  | ok machines =>
    rw [Session.rig, hb] at h
    cases h
    obtain ⟨assembly, -, hbuild⟩ := Session.build_of_mem hb (List.mem_of_getElem? hm)
    exact Assembly.build_fresh hbuild

end Switchboard
