import Switchboard.Proofs.AcceptedImage
import Switchboard.Proofs.CapabilityCall
import Switchboard.Proofs.CommandCall

/-!
# Which raw arguments find a device

Three arguments find the first device whose kind and role have exactly these codes and whose index
is the low byte of the third. The conversions differ: a kind or a role outside its codes names
nothing, and of the index only the low byte is read. So whole turns of the index lead to the same
device, and a whole turn of the kind or the role leads to none, since every code is below 256. The
capability calls tell the outcome by numbers.
-/
namespace Switchboard

namespace Board

/-- Kind and role are codes, and device `n` of the board is the first one that the arguments
name. -/
structure FirstAt (board : Board) (kind role index : Int32) (n : Nat) (device : Device) : Prop where
  kindCode : 0 ≤ kind.toInt ∧ kind.toInt ≤ 12
  roleCode : 0 ≤ role.toInt ∧ role.toInt ≤ 5
  here : board[n]? = some device
  named : device.NamedBy kind role index
  first : ∀ j < n, ∀ other : Device, board[j]? = some other → ¬ other.NamedBy kind role index

end Board

theorem Kind.code_toNat_le (kind : Kind) : kind.code.toNat ≤ 12 :=
  UInt8.le_iff_toNat_le.1 kind.code_le

theorem Role.code_toNat_le (role : Role) : role.code.toNat ≤ 5 :=
  UInt8.le_iff_toNat_le.1 role.code_le

/-- A device is named by codes only. -/
theorem Device.NamedBy.codes {device : Device} {kind role index : Int32}
    (h : device.NamedBy kind role index) :
    (0 ≤ kind.toInt ∧ kind.toInt ≤ 12) ∧ 0 ≤ role.toInt ∧ role.toInt ≤ 5 := by
  obtain ⟨hkind, hrole, -⟩ := h
  have hk := device.place.kind.code_toNat_le
  have hr := device.place.role.code_toNat_le
  omega

namespace Board

theorem findByArguments?_eq_some_iff_firstAt (board : Board) (kind role index : Int32)
    (device : Device) :
    board.findByArguments? kind role index = some device ↔
      ∃ n, board.FirstAt kind role index n device := by
  rw [findByArguments?_eq_some_iff]
  constructor
  · rintro ⟨hnamed, n, hn, hfirst⟩
    obtain ⟨hkind, hrole⟩ := hnamed.codes
    exact ⟨n, hkind, hrole, hn, hnamed, hfirst⟩
  · rintro ⟨n, h⟩
    exact ⟨h.named, n, h.here, h.first⟩

theorem findByArguments?_eq_none_iff_firstAt (board : Board) (kind role index : Int32) :
    board.findByArguments? kind role index = none ↔
      ∀ n device, ¬ board.FirstAt kind role index n device := by
  rw [Option.eq_none_iff_forall_ne_some]
  constructor
  · intro h n device hfirst
    exact h device ((findByArguments?_eq_some_iff_firstAt ..).2 ⟨n, hfirst⟩)
  · intro h device hfound
    obtain ⟨n, hfirst⟩ := (findByArguments?_eq_some_iff_firstAt ..).1 hfound
    exact h n device hfirst

/-- Codes are below 256, so no two of them differ by whole turns. -/
theorem findByArguments?_turned {board : Board} {kind role index : Int32} {device : Device}
    (h : board.findByArguments? kind role index = some device) {k r : Int32}
    (hk : k.toInt % 256 = kind.toInt % 256) (hr : r.toInt % 256 = role.toInt % 256)
    (hother : k ≠ kind ∨ r ≠ role) (i : Int32) : board.findByArguments? k r i = none := by
  rw [findByArguments?_eq_none_iff]
  intro other _ hnamed
  obtain ⟨hnamedFirst, -⟩ := (findByArguments?_eq_some_iff ..).1 h
  have hcodes := hnamedFirst.codes
  have hturned := hnamed.codes
  rw [ne_eq, ne_eq, ← Int32.toInt_inj, ← Int32.toInt_inj] at hother
  omega

end Board

/-- An LED command of kind 1 tells of every miss that the device is not found. -/
theorem Led.locate_eq_deviceNotFound_iff (board : Board) {kind : Int32} (h : kind = 1)
    (role index : Int32) :
    locate board ⟨kind, role, index⟩ = .error .deviceNotFound ↔
      board.findByArguments? kind role index = none := by
  rw [locate_eq_error_iff, Board.findByArguments?_eq_none_iff]
  simp [h]

namespace Capability

section Answers

variable {board : Board} {kind role index : Int32}

theorem answer_of_found {device : Device}
    (h : board.findByArguments? kind role index = some device) :
    let arguments : Arguments := ⟨kind, role, index⟩
    Query.present.answer board arguments = 1 ∧
      (Query.flags.answer board arguments).toInt = device.flags.bits.toNat ∧
      (Query.handle.answer board arguments).toUInt32 = device.handle := by
  have hflags : device.flags.bits.toNat < 2 ^ 8 := device.flags.bits.toNat_lt
  simp only [Query.answer, h]
  exact ⟨rfl, Int32.toInt_ofNat_of_lt (by omega), handle_number device⟩

theorem answer_of_missed (h : board.findByArguments? kind role index = none) :
    let arguments : Arguments := ⟨kind, role, index⟩
    Query.present.answer board arguments = 0 ∧ Query.flags.answer board arguments = -1 ∧
      Query.handle.answer board arguments = -1 := by
  simp only [Query.answer, h]
  decide

end Answers

end Capability

/-- A machine that answers capability calls over the board of another one tells what is there. -/
theorem Rig.answer_of_asked {rig : Rig} {caller owner : Nat} {machine : Machine}
    (hm : rig.machines[owner]? = some machine)
    (hasked : ∀ query : Capability.Query, ∃ origin,
      rig.lookup caller query.number = some ⟨origin, .capability query owner⟩)
    (query : Capability.Query) (kind role index : Int32) :
    (rig.invoke caller query.number ⟨kind, role, index⟩).answer =
      query.answer machine.devices ⟨kind, role, index⟩ := by
  obtain ⟨origin, hl⟩ := hasked query
  exact congrArg Turn.answer (invoke_of_capability hl hm ⟨kind, role, index⟩)

/-- Three raw arguments find the first device that they name, and find nothing exactly if kind or
role is no code or no device is named; an LED command then tells that the device is not found. The
capability calls tell a find by 1, the whole flag byte and the handle with its bits, and a miss by
0, -1 and -1. They do not change by whole turns of the index, and where the arguments find a device,
they find none after whole turns of the kind or the role. -/
theorem raw_lookup_exact {rig : Rig} {caller owner : Nat} {machine : Machine}
    (hm : rig.machines[owner]? = some machine)
    (hasked : ∀ query : Capability.Query, ∃ origin,
      rig.lookup caller query.number = some ⟨origin, .capability query owner⟩)
    (kind role index : Int32) :
    let board := machine.devices
    let found (n : Nat) (device : Device) := board.FirstAt kind role index n device
    let ask (query : Capability.Query) (kind role index : Int32) :=
      (rig.invoke caller query.number ⟨kind, role, index⟩).answer
    (∀ device, board.findByArguments? kind role index = some device ↔ ∃ n, found n device) ∧
    (board.findByArguments? kind role index = none ↔ ∀ n device, ¬ found n device) ∧
    (kind = 1 → (Led.locate board ⟨kind, role, index⟩ = .error .deviceNotFound ↔
      ∀ n device, ¬ found n device)) ∧
    (∀ n device, found n device → ask .present kind role index = 1 ∧
      (ask .flags kind role index).toInt = device.flags.bits.toNat ∧
      (ask .handle kind role index).toUInt32 = device.handle) ∧
    ((∀ n device, ¬ found n device) → ask .present kind role index = 0 ∧
      ask .flags kind role index = -1 ∧ ask .handle kind role index = -1) ∧
    (∀ query i, i.toInt % 256 = index.toInt % 256 →
      ask query kind role i = ask query kind role index) ∧
    ∀ n device, found n device → ∀ k r i : Int32, k.toInt % 256 = kind.toInt % 256 →
      r.toInt % 256 = role.toInt % 256 → k ≠ kind ∨ r ≠ role →
      board.findByArguments? k r i = none ∧ ask .present k r i = 0 := by
  intro board found ask
  have hask : ∀ query k r i, ask query k r i = query.answer board ⟨k, r, i⟩ :=
    Rig.answer_of_asked hm hasked
  have hsome := board.findByArguments?_eq_some_iff_firstAt kind role index
  have hnone := board.findByArguments?_eq_none_iff_firstAt kind role index
  refine ⟨hsome, hnone, ?_, ?_, ?_, ?_, ?_⟩
  · intro hkind
    rw [Led.locate_eq_deviceNotFound_iff board hkind, hnone]
  · intro n device hfound
    rw [hask, hask, hask]
    exact Capability.answer_of_found ((hsome device).2 ⟨n, hfound⟩)
  · intro hmissed
    rw [hask, hask, hask]
    exact Capability.answer_of_missed (hnone.2 hmissed)
  · intro query i hi
    rw [hask, hask]
    have hsame := board.findByArguments?_index_mod kind role hi
    simp only [Capability.Query.answer, hsame]
  · intro n device hfound k r i hk hr hother
    have hmissed := Board.findByArguments?_turned ((hsome device).2 ⟨n, hfound⟩) hk hr hother i
    rw [hask]
    exact ⟨hmissed, (Capability.answer_of_missed hmissed).1⟩

/-- The runtime of the two LEDs at one place, and a machine that borrows its capability calls. -/
def borrowingRig : Rig :=
  Rig.after ⟨[{ platform := some 7 }, {}], [], some (.upTo .trace)⟩
    [⟨0, .setBoard (some crowdedImage)⟩, ⟨1, .registerCapability 0 7⟩]

/-- Index -255 is index 1, where the first of the two LEDs is found with all its flags and a handle
above the positive numbers. Kind 257 is not kind 1, and role -254 is not role 2. -/
theorem raw_lookup_exact_crowded :
    let ask (query : Capability.Query) (kind role index : Int32) :=
      (borrowingRig.invoke 1 query.number ⟨kind, role, index⟩).answer
    ask .present 1 2 (-255) = 1 ∧ (ask .flags 1 2 (-255)).toInt = 0x83 ∧
    (ask .handle 1 2 (-255)).toUInt32 = 0x800000ff ∧
    ask .handle 1 2 1 = ask .handle 1 2 (-255) ∧
    ask .present 257 2 1 = 0 ∧ ask .present 1 (-254) 1 = 0 ∧ ask .flags 1 3 1 = -1 := by
  intro ask
  have hm : borrowingRig.machines[0]? = some borrowingRig.machines[0] := rfl
  have hasked : ∀ query : Capability.Query, ∃ origin,
      borrowingRig.lookup 1 query.number = some ⟨origin, .capability query 0⟩ := by
    intro query
    cases query <;> exact ⟨_, rfl⟩
  obtain ⟨hsome, -, -, hhit, -, hindex, hturned⟩ := raw_lookup_exact hm hasked 1 2 (-255)
  obtain ⟨-, hnone, -, -, hmiss, -, -⟩ := raw_lookup_exact hm hasked 1 3 1
  obtain ⟨n, hfound⟩ := (hsome ⟨⟨.led, .user, 1⟩, ⟨0x83⟩, 0x800000ff⟩).1 (by decide)
  obtain ⟨hpresent, hflags, hhandle⟩ := hhit n _ hfound
  exact ⟨hpresent, hflags, hhandle, hindex .handle 1 (by decide),
    (hturned n _ hfound 257 2 1 (by decide) (by decide) (by decide)).2,
    (hturned n _ hfound 1 (-254) 1 (by decide) (by decide) (by decide)).2,
    (hmiss (hnone.1 (by decide))).2.1⟩

end Switchboard
