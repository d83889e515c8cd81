import Switchboard.Proofs.LedDispatch
import Switchboard.Proofs.Installation

/-!
# What capability calls tell about LED calls

A caller that asks for the LED at a role and an index, and then lights it, means one device both
times: the first one on the board, whatever the index is beyond its low byte. So the capability
calls tell beforehand which pin the LED calls will ask a bank about, and whether any.
-/
namespace Switchboard

def PinCall.handle : PinCall → UInt32
  | .write handle _ _ _ => handle
  | .read handle _ _ => handle

def PinCall.activeLow : PinCall → Bool
  | .write _ _ activeLow _ => activeLow
  | .read _ activeLow _ => activeLow

namespace Led.Operation

/-- An operation asks something, and only about its device. -/
theorem calls_device (operation : Operation) (word : Int32) (bank : PinBank) (handle : UInt32)
    (activeLow : Bool) :
    operation.calls word bank handle activeLow ≠ [] ∧
      ∀ call ∈ operation.calls word bank handle activeLow,
        call.handle = handle ∧ call.activeLow = activeLow := by
  cases operation <;> simp [calls, PinCall.handle, PinCall.activeLow]

end Led.Operation

/-- A target of kind 1 is looked for on the board and nowhere else. -/
theorem Led.locate_of_led (board : Board) {target : Target} (h : target.kind = 1) :
    locate board target =
      (board.findByArguments? 1 target.role target.index).elim (.error .deviceNotFound) .ok := by
  obtain ⟨kind, role, index⟩ := target
  obtain rfl : kind = 1 := h
  have hled : Kind.ofArgument? 1 = some .led := by decide
  rw [locate, if_pos hled]
  cases board.findByArguments? 1 role index <;> rfl

namespace Capability

/-- The flags of a device as a number, with its first bit. -/
theorem flags_number (device : Device) :
    let flags := Int32.ofNat device.flags.bits.toNat
    0 ≤ flags ∧ flags ≤ 255 ∧ flags.toBitVec.getLsbD 0 = device.activeLow := by
  intro flags
  have hlt : device.flags.bits.toNat < 2 ^ 8 := device.flags.bits.toNat_lt
  have hint : flags.toInt = device.flags.bits.toNat := Int32.toInt_ofNat_of_lt (by omega)
  refine ⟨?_, ?_, ?_⟩
  · rw [Int32.le_iff_toInt_le, hint]
    show (0 : Int) ≤ _
    omega
  · rw [Int32.le_iff_toInt_le, hint]
    show _ ≤ (255 : Int)
    omega
  · show (BitVec.ofNat 32 device.flags.bits.toNat).getLsbD 0 = _
    rw [BitVec.getLsbD_ofNat]
    rfl

/-- The handle of a device as a number, with the same bits. -/
theorem handle_number (device : Device) :
    (Int32.ofNat device.handle.toNat).toUInt32 = device.handle :=
  UInt32.ofNat_toNat

end Capability

namespace Rig

/-- A capability call answers from the board and does nothing. -/
theorem invoke_of_capability {rig : Rig} {self owner : Nat} {machine : Machine}
    {number : CallNumber} {origin : Origin} {query : Capability.Query}
    (hl : rig.lookup self number = some ⟨origin, .capability query owner⟩)
    (hm : rig.machines[owner]? = some machine) (arguments : Arguments) :
    rig.invoke self number arguments =
      ⟨rig, query.answer machine.devices arguments, []⟩ := by
  have hdevices : rig.devices owner = machine.devices := by simp only [devices, hm]
  rw [invoke_of_lookup hl, ← hdevices]
  rfl

section Located

variable {rig : Rig} {self owner : Nat} {machine : Machine} {number : CallNumber}
  {origin : Origin} {operation : Led.Operation} {arguments : Arguments}
  (hl : rig.lookup self number = some ⟨origin, .led operation owner⟩)
  (hm : rig.machines[owner]? = some machine)

include hl hm in
/-- The calls that an LED call makes, once its device is found. -/
theorem invoke_calls_of_located {position : Nat} {bank : PinBank} {device : Device}
    (hp : machine.bank = some position) (hb : rig.banks[position]? = some bank)
    (hd : Led.locate machine.devices (operation.command arguments).target = .ok device) :
    (rig.invoke self number arguments).effects.filterMap Effect.call? =
      (operation.calls arguments.third bank device.handle device.activeLow).map (position, ·) := by
  rw [invoke_of_led hl, Turn.finish_calls, led_of_located hm hp hb hd, Led.Operation.perform_calls]
  show List.filterMap Effect.call? (List.map (.pin position) _) = _
  rw [List.filterMap_map]
  exact congrFun List.filterMap_eq_map' _

include hl hm in
/-- An LED call whose device is not found. -/
theorem invoke_of_unlocated {error : CallError}
    (hd : Led.locate machine.devices (operation.command arguments).target = .error error) :
    (rig.invoke self number arguments).effects.filterMap Effect.call? = [] ∧
      (rig.invoke self number arguments).answer = 0 := by
  obtain ⟨error, hcode, hled⟩ : ∃ error : CallError, error.code = 0 ∧
      rig.led owner (operation.command arguments) = ⟨rig, .error error, []⟩ := by
    apply led_of_missed
    intro other _ _ device hother _ _ hfound
    obtain rfl : machine = other := Option.some.inj (hm.symm.trans hother)
    cases hd.symm.trans hfound
  rw [invoke_of_led hl, hled]
  exact ⟨Turn.finish_calls .., hcode⟩

end Located

end Rig

/-- On a machine with its standard handlers and a bank, an LED call asks the bank exactly if the
device is reported to exist. It then asks about the reported handle only, with the first bit of
the reported flags, and flags are a byte. A device that is not there has neither, and the LED call
asks nothing and returns 0. -/
theorem capability_tells_call {rig : Rig} {self : Nat} {machine : Machine} {position : Nat}
    {bank : PinBank} (hm : rig.machines[self]? = some machine)
    (hp : machine.bank = some position) (hb : rig.banks[position]? = some bank)
    (hstandard : rig.Standard self) (operation : Led.Operation) (role index word : Int32)
    (hword : operation.index word = index.toInt % 256) :
    let ask (query : Capability.Query) := (rig.invoke self query.number ⟨1, role, index⟩).answer
    let turn := rig.invoke self operation.number ⟨1, role, word⟩
    let calls := turn.effects.filterMap Effect.call?
    (calls ≠ [] ↔ ask .present = 1) ∧
    (calls ≠ [] → 0 ≤ ask .flags ∧ ask .flags ≤ 255 ∧
      ∀ call ∈ calls, call.1 = position ∧ call.2.handle = (ask .handle).toUInt32 ∧
        call.2.activeLow = (ask .flags).toBitVec.getLsbD 0) ∧
    (ask .present = 0 → ask .flags = -1 ∧ ask .handle = -1 ∧ turn.answer = 0) ∧
    (ask .present = 0 ∨ ask .present = 1) := by
  intro ask turn calls
  obtain ⟨origin, hl⟩ := hstandard.led operation
  let arguments : Arguments := ⟨1, role, word⟩
  have hask : ∀ query : Capability.Query,
      ask query = query.answer machine.devices ⟨1, role, index⟩ := by
    intro query
    obtain ⟨_, hasked⟩ := hstandard.capability query
    exact congrArg Turn.answer (Rig.invoke_of_capability hasked hm ⟨1, role, index⟩)
  have hindex := (operation.command_index arguments).trans hword
  have hlocate := Led.locate_of_led machine.devices (operation.command_kind arguments)
  rw [operation.command_role, Board.findByArguments?_index_mod _ _ _ hindex] at hlocate
  simp only [hask, Capability.Query.answer]
  cases hfound : machine.devices.findByArguments? 1 role index with
  | none =>
    rw [hfound] at hlocate
    obtain ⟨hcalls, hanswer⟩ : calls = [] ∧ turn.answer = 0 :=
      Rig.invoke_of_unlocated hl hm hlocate
    simp [hcalls, hanswer]
  | some device =>
    rw [hfound] at hlocate
    have hcalls : calls = _ := Rig.invoke_calls_of_located hl hm hp hb hlocate
    obtain ⟨hany, hdevice⟩ :=
      operation.calls_device word bank device.handle device.activeLow
    obtain ⟨hlow, hhigh, hbit⟩ := Capability.flags_number device
    rw [hcalls]
    refine ⟨by simpa using hany, fun _ => ⟨hlow, hhigh, ?_⟩, by simp, by simp⟩
    intro call hcall
    obtain ⟨asked, hasked, rfl⟩ := List.mem_map.1 hcall
    obtain ⟨hhandle, hactive⟩ := hdevice asked hasked
    show position = position ∧ asked.handle = (Int32.ofNat device.handle.toNat).toUInt32 ∧
      asked.activeLow = (Int32.ofNat device.flags.bits.toNat).toBitVec.getLsbD 0
    rw [Capability.handle_number, hbit]
    exact ⟨rfl, hhandle, hactive⟩

/-- Two LEDs at one place; the first is active low, carries unknown flags and has a handle that is
negative as a number. -/
def crowdedImage : List UInt8 := [1, 2, 1, 0x83, 0xff, 0, 0, 0x80, 1, 2, 1, 0, 11, 0, 0, 0]

/-- A runtime over them, with its standard handlers, on a sound bank. -/
def crowdedRig : Rig :=
  let wired := Rig.after ⟨[{ platform := some 7 }], [⟨.sound, .empty⟩], some (.upTo .trace)⟩
    [⟨0, .setBank (some 0)⟩, ⟨0, .setBoard (some crowdedImage)⟩]
  (wired.step ⟨0, .registerStandard⟩).rig

/-- Index -255 is index 1, and a packed word with a high byte beyond it means index 1 as well; both
lead to the first LED. Role 3 is empty. -/
theorem capability_tells_call_crowded :
    let calls := (crowdedRig.invoke 0 .ledSet ⟨1, 2, -0x7efeffff⟩).effects.filterMap Effect.call?
    let ask (query : Capability.Query) (role : Int32) :=
      (crowdedRig.invoke 0 query.number ⟨1, role, -255⟩).answer
    (∀ call ∈ calls, call.2.handle = (ask .handle 2).toUInt32 ∧ call.2.activeLow = true) ∧
    calls ≠ [] ∧ ask .handle 2 < 0 ∧ ask .flags 2 = 0x83 ∧ ask .flags 3 = -1 := by
  intro calls ask
  have hm : crowdedRig.machines[0]? = some crowdedRig.machines[0] := rfl
  have hb : crowdedRig.banks[0]? = some ⟨.sound, .empty⟩ := rfl
  have hstandard : crowdedRig.Standard 0 := Rig.standard_of_register rfl rfl
  obtain ⟨hany, hcalls, -, -⟩ := capability_tells_call hm rfl hb hstandard .set 2 (-255)
    (-0x7efeffff) (by decide)
  obtain ⟨-, -, hnone, -⟩ := capability_tells_call hm rfl hb hstandard .get 3 (-255) 1 (by decide)
  have hcalled : calls ≠ [] := hany.2 (by decide)
  refine ⟨fun call hcall => ?_, hcalled, by decide, by decide, (hnone (by decide)).1⟩
  obtain ⟨-, hhandle, hlow⟩ := (hcalls hcalled).2.2 call hcall
  exact ⟨hhandle, hlow⟩

end Switchboard
