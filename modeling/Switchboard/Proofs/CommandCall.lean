import Switchboard.Proofs.Change
import Switchboard.Proofs.LedDispatch

/-!
# Commands and calls agree

The same LED operation can be given as a command, with a target, or called by number, with raw
arguments. Setting packs the index into a byte on its way through a call, and looking for a device
cuts the index to a byte in any case, so both mean the same device whatever the index. They ask the
bank the same questions and leave the same rig; a failure that the command names is a 0 to the
caller.
-/
namespace Switchboard

namespace Led

/-- The raw arguments by which a call asks for what an operation does to a target. Only setting
passes a state. -/
def Operation.arguments (operation : Operation) (target : Target) (state : Bool) : Arguments :=
  match operation with
  | set => ⟨target.kind, target.role, pack (UInt8.ofInt target.index.toInt) state⟩
  | _ => ⟨target.kind, target.role, target.index⟩

/-- Why a command fails on a machine: the bank is asked for first, then the kind is judged, and
only then is the board searched. -/
inductive Fails (bank : Option Nat) (board : Board) (target : Target) : CallError → Prop
  | noBank (hb : bank = none) : Fails bank board target .noBank
  | wrongKind (hb : bank ≠ none) (hk : target.kind ≠ 1) : Fails bank board target .wrongKind
  | deviceNotFound (hb : bank ≠ none) (hk : target.kind = 1)
      (hnone : ∀ device ∈ board, ¬ device.NamedBy target.kind target.role target.index) :
      Fails bank board target .deviceNotFound

/-- What goes into the arguments is the action again, on a target that differs in whole turns of
the index at most. -/
theorem Operation.command_arguments (operation : Operation) (target : Target) (state : Bool) :
    ∃ index : Int32, index.toInt % 256 = target.index.toInt % 256 ∧
      operation.command (operation.arguments target state) =
        ⟨operation.action state, { target with index := index }⟩ := by
  cases operation with
  | set =>
    have hbyte := low_byte target.index.toInt
    have hlt : (UInt8.ofInt target.index.toInt).toNat < 2 ^ 8 := UInt8.toNat_lt _
    refine ⟨Int32.ofNat (UInt8.ofInt target.index.toInt).toNat, ?_, ?_⟩
    · rw [Int32.toInt_ofNat_of_lt (by omega)]
      omega
    · simp only [command, setting, arguments, unpack_pack]
  | _ => exact ⟨target.index, rfl, rfl⟩

theorem locate_eq_error_iff (board : Board) (target : Target) (error : CallError) :
    locate board target = .error error ↔
      target.kind ≠ 1 ∧ error = .wrongKind ∨
      target.kind = 1 ∧ (∀ device ∈ board, ¬ device.NamedBy target.kind target.role target.index) ∧
        error = .deviceNotFound := by
  have hk : Kind.ofArgument? target.kind = some .led ↔ target.kind = 1 := by
    rw [Kind.ofArgument?_eq_some_iff, ← Int32.toInt_inj]
    rfl
  rw [← Board.findByArguments?_eq_none_iff, ne_eq, ← hk]
  unfold locate
  by_cases h : Kind.ofArgument? target.kind = some .led
  · rw [if_pos h]
    cases board.findByArguments? target.kind target.role target.index with
    | none => simp [h, eq_comm]
    | some device => simp [h]
  · rw [if_neg h]
    simp [h, eq_comm]

end Led

namespace Rig

theorem led_index_mod (rig : Rig) (owner : Nat) (action : Led.Action) (target : Led.Target)
    {index : Int32} (h : index.toInt % 256 = target.index.toInt % 256) :
    rig.led owner ⟨action, { target with index := index }⟩ = rig.led owner ⟨action, target⟩ := by
  simp only [led, perform_eq, Led.locate, Board.findByArguments?_index_mod _ _ _ h]

/-- On a machine that points at no bank, or at one that is there, a command fails for the reasons
listed and no others. -/
theorem led_answer_error_iff {rig : Rig} {owner : Nat} {machine : Machine}
    (hm : rig.machines[owner]? = some machine)
    (hwired : ∀ position, machine.bank = some position → position < rig.banks.length)
    (command : Led.Command) (error : CallError) :
    (rig.led owner command).answer = .error error ↔
      Led.Fails machine.bank machine.devices command.target error := by
  cases hp : machine.bank with
  | none =>
    have hbank : rig.bankOf? machine = none := by rw [bankOf?, hp]; rfl
    have hled : rig.led owner command = ⟨rig, .error .noBank, []⟩ := by
      simp only [led, hm, hbank]
    rw [hled]
    constructor
    · intro h
      cases h
      exact .noBank rfl
    · intro h
      cases h with
      | noBank _ => rfl
      | wrongKind hb _ => exact absurd rfl hb
      | deviceNotFound hb _ _ => exact absurd rfl hb
  | some position =>
    obtain ⟨bank, hb⟩ : ∃ bank, rig.banks[position]? = some bank :=
      ⟨_, List.getElem?_eq_getElem (hwired position hp)⟩
    have hbank := (bankOf?_eq_some_iff rig machine position bank).2 ⟨hp, hb⟩
    have hled : (rig.led owner command).answer = .error error ↔
        Led.locate machine.devices command.target = .error error := by
      simp only [led, hm, hbank, perform_eq]
      cases Led.locate machine.devices command.target <;> simp [Except.map]
    rw [hled, Led.locate_eq_error_iff]
    constructor
    · rintro (⟨hk, rfl⟩ | ⟨hk, hnone, rfl⟩)
      · exact .wrongKind (Option.some_ne_none position) hk
      · exact .deviceNotFound (Option.some_ne_none position) hk hnone
    · intro h
      cases h with
      | noBank hb => cases hb
      | wrongKind _ hk => exact Or.inl ⟨hk, rfl⟩
      | deviceNotFound _ hk hnone => exact Or.inr ⟨hk, hnone, rfl⟩

/-- No failure of a command shows in the number that stands for it. -/
theorem led_error_code {rig : Rig} {owner : Nat} {command : Led.Command} {error : CallError}
    (h : (rig.led owner command).answer = .error error) : error.code = 0 := by
  rcases rig.led_cases owner command with ⟨other, hcode, hled⟩ | ⟨_, _, _, _, -, -, -, -, hled⟩
  · rw [hled] at h
    cases h
    exact hcode
  · rw [hled] at h
    cases h

end Rig

/-- In any state of a session, on a machine with its own LED handlers, an operation can be given as
a command or called by number, reporting failures or not: the rig after it and the calls to the bank
are the same, and the answers correspond. The command names its failure, which is one of three. -/
theorem command_and_call_agree {session : Session} {start : Rig} (hstart : session.rig = .ok start)
    (history : List Step) {self : Nat} {machine : Machine}
    (hm : (start.after history).machines[self]? = some machine)
    (hlit : ∀ operation : Led.Operation, ∃ origin,
      (start.after history).lookup self operation.number = some ⟨origin, .led operation self⟩)
    (operation : Led.Operation) (target : Led.Target) (state : Bool) :
    let rig := start.after history
    let arguments := operation.arguments target state
    let given := rig.step ⟨self, .led ⟨operation.action state, target⟩⟩
    let called := rig.step ⟨self, .invoke operation.number arguments⟩
    let tried := rig.step ⟨self, .tryInvoke operation.number arguments⟩
    tried = called ∧ called.rig = given.rig ∧
    called.effects.filterMap Effect.call? = given.effects.filterMap Effect.call? ∧
    ((∃ done, given.answer = .flag done ∧ called.answer = .value (if done then 1 else 0)) ∨
      ∃ error, given.answer = .callError error ∧ error.code = 0 ∧ called.answer = .value 0) ∧
    ∀ error, given.answer = .callError error ↔
      Led.Fails machine.bank machine.devices target error := by
  intro rig arguments given called tried
  obtain ⟨origin, hl⟩ := hlit operation
  obtain ⟨index, hindex, hcommand⟩ := operation.command_arguments target state
  let direct := rig.led self ⟨operation.action state, target⟩
  have hsame : rig.led self (operation.command arguments) = direct := by
    rw [hcommand]
    exact Rig.led_index_mod rig self (operation.action state) target hindex
  have hgiven : given = direct.finish Rig.ledReply (fun _ => []) := by
    show rig.step _ = _
    rw [Rig.step_of_machine hm, ← Rig.ledCommand_eq]
    rfl
  have hcalls : ∀ request : Request, request.call? = some (operation.number, arguments) →
      rig.step ⟨self, request⟩ = direct.finish (fun answer => .value (Rig.ledValue answer))
        (Rig.ledNotices operation.number arguments) := by
    intro request hc
    have hstep : rig.step ⟨self, request⟩ = _ := Rig.step_of_led_call hc hl
    rw [hstep, hsame]
    rfl
  have hcalled : called = _ := hcalls (.invoke operation.number arguments) rfl
  have htried : tried = _ := hcalls (.tryInvoke operation.number arguments) rfl
  have hwired := Rig.wired_after (Rig.wired_of_session hstart) history self machine hm
  refine ⟨htried.trans hcalled.symm, ?_, ?_, ?_, ?_⟩
  · rw [hcalled, hgiven, Turn.finish_rig, Turn.finish_rig]
  · rw [hcalled, hgiven, Turn.finish_calls, Turn.finish_calls]
  · rw [hcalled, hgiven]
    cases hanswer : direct.answer with
    | ok done => exact Or.inl ⟨done, by simp [Turn.finish, hanswer, Rig.ledReply, Rig.ledValue]⟩
    | error error =>
      have hcode := Rig.led_error_code hanswer
      refine Or.inr ⟨error, ?_, hcode, ?_⟩
      · simp [Turn.finish, hanswer, Rig.ledReply]
      · simp [Turn.finish, hanswer, Rig.ledValue, hcode]
  · intro error
    rw [← Rig.led_answer_error_iff hm hwired ⟨operation.action state, target⟩, hgiven]
    show Rig.ledReply direct.answer = .callError error ↔ direct.answer = .error error
    cases direct.answer <;> simp [Rig.ledReply]

/-- A machine of loose parts over the two LEDs that share a place. -/
def partsSession : Session where
  filter := some (.upTo .trace)
  banks := [.sized 16]
  machines := [.parts (some twinImage)]
  steps := [⟨0, .registerLed 0⟩, ⟨0, .setBank (some 0)⟩]

/-- Index -255 is index 1, given as it is or packed into a byte, and a button is no LED. -/
theorem command_and_call_agree_wrapped :
    ∃ start, partsSession.rig = .ok start ∧
      let rig := start.after partsSession.steps
      (rig.step ⟨0, .led ⟨.write true, ⟨1, 2, -255⟩⟩⟩).effects =
        [.pin 0 (.write 10 true true true)] ∧
      (rig.step ⟨0, .tryInvoke .ledSet ⟨1, 2, 0x10001⟩⟩).answer = .value 1 ∧
      (rig.step ⟨0, .led ⟨.toggle, ⟨2, 2, 1⟩⟩⟩).answer = .callError .wrongKind := by
  refine ⟨_, rfl, ?_⟩
  intro rig
  have hstart : partsSession.rig = .ok _ := rfl
  have hm : rig.machines[0]? = some rig.machines[0] := rfl
  have hlit : ∀ operation : Led.Operation, ∃ origin,
      rig.lookup 0 operation.number = some ⟨origin, .led operation 0⟩ := by
    intro operation
    cases operation <;> exact ⟨_, rfl⟩
  have hgiven : rig.step ⟨0, .led ⟨.write true, ⟨1, 2, -255⟩⟩⟩ =
      ⟨rig.putBank 0 ⟨.sized 16, SortedMap.empty.insert 10 false⟩, .flag true,
        [.pin 0 (.write 10 true true true)]⟩ := by decide
  obtain ⟨htried, -, -, hanswers, -⟩ :=
    command_and_call_agree hstart partsSession.steps hm hlit .set ⟨1, 2, -255⟩ true
  obtain ⟨-, -, -, -, hfails⟩ :=
    command_and_call_agree hstart partsSession.steps hm hlit .toggle ⟨2, 2, 1⟩ true
  refine ⟨congrArg Turn.effects hgiven, ?_, (hfails .wrongKind).2 (.wrongKind nofun (by decide))⟩
  rcases hanswers with ⟨done, hdone, hcalled⟩ | ⟨error, herror, -⟩
  · obtain rfl : done = true := Reply.flag.inj (hdone.symm.trans (congrArg Turn.answer hgiven))
    exact (congrArg Turn.answer htried).trans hcalled
  · cases herror.symm.trans (congrArg Turn.answer hgiven)

end Switchboard
