import Switchboard.Proofs.Argument
import Switchboard.Proofs.Turn

/-!
# LED calls, from the image to the pins

What a numbered LED call does is read off the bytes of the image here: which record it means,
which questions it puts to the bank, and what number comes back. The bank is the one that the
machine points at when the call is made. Nothing is said about how the machine came by its
handlers; `Standard.led` is one way.
-/
namespace Switchboard

/-- What a bank answered. -/
def PinCall.answer : PinCall → Bool
  | .write _ _ _ accepted => accepted
  | .read _ _ state => state

/-- The bank after a question. -/
def PinBank.asked (bank : PinBank) : PinCall → PinBank
  | .write handle state activeLow _ => bank.write handle state activeLow
  | .read _ _ _ => bank

/-- The answer that came last. -/
def lastAnswer (calls : List PinCall) : Bool := (calls.getLast?.map PinCall.answer).getD false

namespace Led.Operation

/-- The index that the third argument means: its low byte, or the byte above the state. -/
def index : Operation → Int32 → Int
  | set, word => ((word >>> 16) &&& 0xff).toInt
  | _, word => word.toInt % 256

/-- The questions that an operation puts to a bank about one pin, with their answers. -/
def calls (operation : Operation) (word : Int32) (bank : PinBank) (handle : UInt32)
    (activeLow : Bool) : List PinCall :=
  match operation with
  | on => [.write handle true activeLow (bank.accepts handle)]
  | off => [.write handle false activeLow (bank.accepts handle)]
  | set => [.write handle (word &&& 0xffff != 0) activeLow (bank.accepts handle)]
  | toggle =>
    let seen := bank.read handle activeLow
    [.read handle activeLow seen, .write handle (!seen) activeLow (bank.accepts handle)]
  | get => [.read handle activeLow (bank.read handle activeLow)]

/-- Record `n` is an LED at the role and index of the arguments. -/
structure Names (operation : Operation) (arguments : Arguments) (image : List UInt8) (n : Nat) :
    Prop where
  inside : n < image.length / 8
  kind : recordByte image n 0 = 1
  role : ((recordByte image n 1).toNat : Int) = arguments.second.toInt
  index : ((recordByte image n 2).toNat : Int) = operation.index arguments.third

/-- The call reaches a pin: a bank is there and record `n` is the first that is named. -/
structure Reaches (operation : Operation) (arguments : Arguments) (image : List UInt8)
    (machine : Machine) (rig : Rig) (position : Nat) (bank : PinBank) (n : Nat) : Prop where
  installed : machine.bank = some position
  bank : rig.banks[position]? = some bank
  kind : arguments.first = 1
  role : 0 ≤ arguments.second.toInt ∧ arguments.second.toInt ≤ 5
  named : operation.Names arguments image n
  first : ∀ j < n, ¬ operation.Names arguments image j

theorem command_kind (operation : Operation) (arguments : Arguments) :
    (operation.command arguments).target.kind = arguments.first := by
  cases operation <;> rfl

theorem command_role (operation : Operation) (arguments : Arguments) :
    (operation.command arguments).target.role = arguments.second := by
  cases operation <;> rfl

theorem command_index (operation : Operation) (arguments : Arguments) :
    (operation.command arguments).target.index.toInt % 256 = operation.index arguments.third := by
  cases operation with
  | set =>
    change (unpack arguments).target.index.toInt % 256 = _
    rw [unpack_index_mod, unpack_index]
    rfl
  | _ => rfl

/-- Asking a bank for a device puts exactly the listed questions, moves the bank by them and
ends with the last answer. -/
theorem perform_calls (operation : Operation) (arguments : Arguments) (bank : PinBank)
    (device : Device) :
    let calls := operation.calls arguments.third bank device.handle device.activeLow
    (operation.command arguments).action.perform bank device =
      ⟨calls.foldl PinBank.asked bank, calls, lastAnswer calls⟩ := by
  cases operation with
  | set =>
    change Action.perform (.write (unpack arguments).state) bank device = _
    rw [unpack_state]
    rfl
  | _ => rfl

variable {image : List UInt8} {board : Board} (hd : Board.decode image = .ok board)

include hd in
theorem names_iff (operation : Operation) {arguments : Arguments} (hk : arguments.first = 1)
    {n : Nat} {device : Device} (hn : board[n]? = some device) :
    operation.Names arguments image n ↔
      device.NamedBy arguments.first arguments.second
        (operation.command arguments).target.index := by
  obtain ⟨hkind, hrole, hindex, -, -⟩ := record_of_decode hd hn
  have hone : (1 : Int32).toInt = 1 := rfl
  have hled : (1 : UInt8).toNat = 1 := rfl
  unfold Device.NamedBy
  rw [command_index, hk, ← hkind, ← hrole, ← hindex, hone]
  constructor
  · intro h
    rw [h.kind]
    exact ⟨rfl, h.role.symm, h.index⟩
  · rintro ⟨h0, h1, h2⟩
    have hlt : n < image.length / 8 := by
      rw [length_of_decode hd]
      exact (List.getElem?_eq_some_iff.1 hn).1
    refine ⟨hlt, ?_, h1.symm, h2⟩
    rw [← UInt8.toNat_inj, hled]
    omega

include hd in
/-- The board yields the device of the first record that is named. -/
theorem locate_iff (operation : Operation) (arguments : Arguments) (device : Device) :
    locate board (operation.command arguments).target = .ok device ↔
      arguments.first = 1 ∧ ∃ n : Nat, board[n]? = some device ∧
        operation.Names arguments image n ∧ ∀ j < n, ¬ operation.Names arguments image j := by
  have hone : arguments.first.toInt = 1 ↔ arguments.first = 1 := by
    rw [← Int32.toInt_inj]
    rfl
  rw [locate_eq_ok_iff, command_kind, command_role, hone, Board.findByArguments?_eq_some_iff]
  refine and_congr_right fun hk => ⟨?_, ?_⟩
  · rintro ⟨hnamed, n, hn, hfirst⟩
    refine ⟨n, hn, (names_iff hd operation hk hn).2 hnamed, ?_⟩
    intro j hj hnames
    have hlt : j < board.length := by
      rw [← length_of_decode hd]
      exact hnames.inside
    have hother : board[j]? = some board[j] := List.getElem?_eq_some_iff.2 ⟨hlt, rfl⟩
    exact hfirst j hj board[j] hother ((names_iff hd operation hk hother).1 hnames)
  · rintro ⟨n, hn, hnames, hfirst⟩
    refine ⟨(names_iff hd operation hk hn).1 hnames, n, hn, ?_⟩
    intro j hj other ho hnamed
    exact hfirst j hj ((names_iff hd operation hk ho).2 hnamed)

/-- Which calls reach a pin is a matter of the image and the bank alone. -/
theorem reaches_iff {rig : Rig} {machine : Machine} {image : List UInt8} {board : Board}
    (hd : Board.decode image = .ok board) (operation : Operation) (arguments : Arguments)
    (position : Nat) (bank : PinBank) (n : Nat) :
    operation.Reaches arguments image machine rig position bank n ↔
      machine.bank = some position ∧ rig.banks[position]? = some bank ∧
      ∃ device : Device, board[n]? = some device ∧ arguments.first = 1 ∧
        operation.Names arguments image n ∧ ∀ j < n, ¬ operation.Names arguments image j := by
  constructor
  · intro h
    have hlt : n < board.length := by
      rw [← length_of_decode hd]
      exact h.named.inside
    exact ⟨h.installed, h.bank, board[n], List.getElem?_eq_some_iff.2 ⟨hlt, rfl⟩, h.kind, h.named,
      h.first⟩
  · rintro ⟨hp, hbank, device, hn, hk, hnamed, hfirst⟩
    have hrole : device.place.role.code.toNat ≤ 5 := by cases device.place.role <;> decide
    have hr := hnamed.role
    rw [(record_of_decode hd hn).2.1] at hr
    exact ⟨hp, hbank, hk, by omega, hnamed, hfirst⟩

end Led.Operation

open Led.Operation in
/-- An LED call over an accepted image asks the bank about the first record that it means, by
exactly the questions of its operation, and returns the last answer. Without a bank or without
such a record it asks nothing, moves nothing and returns 0. -/
theorem led_call_from_image {rig : Rig} {self : Nat} {machine : Machine} {image : List UInt8}
    {board : Board} (hm : rig.machines[self]? = some machine) (hb : machine.board = some board)
    (hd : Board.decode image = .ok board)
    (hlit : ∀ operation : Led.Operation, ∃ origin,
      rig.lookup self operation.number = some ⟨origin, .led operation self⟩)
    (operation : Led.Operation) (arguments : Arguments) :
    let turn := rig.invoke self operation.number arguments
    (∀ position bank n, operation.Reaches arguments image machine rig position bank n →
      let calls :=
        operation.calls arguments.third bank (recordHandle image n) (recordActiveLow image n)
      turn.effects = calls.map (.pin position) ∧
      turn.rig = rig.putBank position (calls.foldl PinBank.asked bank) ∧
      turn.answer = if lastAnswer calls then 1 else 0) ∧
    ((∀ position bank n, ¬ operation.Reaches arguments image machine rig position bank n) →
      turn.effects.filterMap Effect.call? = [] ∧ turn.rig = rig ∧ turn.answer = 0) := by
  intro turn
  obtain ⟨origin, hl⟩ := hlit operation
  have hdev : machine.devices = board := by rw [Machine.devices, hb, Option.getD_some]
  have hturn : turn = (rig.led self (operation.command arguments)).finish Rig.ledValue
      (Rig.ledNotices operation.number arguments) := Rig.invoke_of_led hl arguments
  constructor
  · intro position bank n hreach calls
    obtain ⟨hp, hbank, device, hn, hk, hnamed, hfirst⟩ :=
      (reaches_iff hd operation arguments position bank n).1 hreach
    have hloc : Led.locate machine.devices (operation.command arguments).target = .ok device := by
      rw [hdev]
      exact (locate_iff hd operation arguments device).2 ⟨hk, n, hn, hnamed, hfirst⟩
    obtain ⟨-, -, -, hhandle, hlow⟩ := record_of_decode hd hn
    have hcalls : calls =
        operation.calls arguments.third bank device.handle device.activeLow := by
      rw [← hhandle, ← hlow]
    rw [hturn, Rig.led_of_located hm hp hbank hloc, perform_calls, ← hcalls]
    exact ⟨List.append_nil _, rfl, rfl⟩
  · intro hmiss
    obtain ⟨error, hcode, hled⟩ : ∃ error : CallError, error.code = 0 ∧
        rig.led self (operation.command arguments) = ⟨rig, .error error, []⟩ := by
      apply Rig.led_of_missed
      intro other position bank device hother hp hbank hloc
      obtain rfl : machine = other := Option.some.inj (hm.symm.trans hother)
      rw [hdev] at hloc
      obtain ⟨hk, n, hn, hnamed, hfirst⟩ := (locate_iff hd operation arguments device).1 hloc
      exact hmiss position bank n ((reaches_iff hd operation arguments position bank n).2
        ⟨hp, hbank, device, hn, hk, hnamed, hfirst⟩)
    rw [hturn, hled]
    exact ⟨Turn.finish_calls .., rfl, hcode⟩

/-- Two LEDs that share a place; the first is active low and carries an unknown flag. -/
def twinImage : List UInt8 := [1, 2, 1, 0x81, 10, 0, 0, 0, 1, 2, 1, 0, 11, 0, 0, 0]

/-- A runtime over the two LEDs, on a bank of sixteen pins. -/
def twinRig : Rig :=
  Rig.after ⟨[{ platform := some 7 }], [⟨.sized 16, .empty⟩], some (.upTo .trace)⟩
    [⟨0, .registerStandard⟩, ⟨0, .setBank (some 0)⟩, ⟨0, .setBoard (some twinImage)⟩]

/-- Index 257 is index 1, and the first of the two LEDs answers for both. -/
theorem led_call_from_image_twin :
    (∀ operation : Led.Operation, ∃ origin,
      twinRig.lookup 0 operation.number = some ⟨origin, .led operation 0⟩) ∧
    Board.decode twinImage = .ok (twinRig.devices 0) ∧
    (twinRig.invoke 0 .ledToggle ⟨1, 2, 257⟩).effects =
      [.pin 0 (.read 10 true true), .pin 0 (.write 10 false true true)] ∧
    (twinRig.invoke 0 .ledToggle ⟨1, 2, 257⟩).answer = 1 ∧
    (twinRig.invoke 0 .ledSet ⟨1, 2, 1⟩).answer = 0 := by
  have hlit : ∀ operation : Led.Operation, ∃ origin,
      twinRig.lookup 0 operation.number = some ⟨origin, .led operation 0⟩ := by
    intro operation
    cases operation <;> exact ⟨_, rfl⟩
  have hm : twinRig.machines[0]? = some twinRig.machines[0] := rfl
  have hb : twinRig.machines[0].board = some (twinRig.devices 0) := rfl
  have hd : Board.decode twinImage = .ok (twinRig.devices 0) := rfl
  have htoggle := (led_call_from_image hm hb hd hlit .toggle ⟨1, 2, 257⟩).1 0 ⟨.sized 16, .empty⟩ 0
    ⟨rfl, rfl, rfl, by decide, ⟨by decide, rfl, rfl, rfl⟩, fun j hj => absurd hj (by omega)⟩
  -- the word 1 packs index 0, where no LED sits
  have hset := (led_call_from_image hm hb hd hlit .set ⟨1, 2, 1⟩).2 (by
    intro position bank n hreach
    have hn : n < 2 := hreach.named.inside
    have hi := hreach.named.index
    obtain rfl | rfl : n = 0 ∨ n = 1 := by omega
    · exact absurd hi (by decide)
    · exact absurd hi (by decide))
  exact ⟨hlit, hd, htoggle.1, htoggle.2.2, hset.2.2⟩

end Switchboard
