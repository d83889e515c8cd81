import Switchboard.Proofs.RawLookup

/-!
# Telling a miss from a hit

The capability calls for flags and for a handle answer -1 where there is no device, because 0 is a
flag byte and a handle like any other. No flag byte reads as -1, so the flags always tell. A handle
is given with all its 32 bits, and the one with all bits set reads as -1 too: of a board that has it
at a place of its own, the handle does not tell whether the device is there.
-/
namespace Switchboard

/-- Record `n` of the image has kind, role and index in common with record `j`. -/
def SamePlace (image : List UInt8) (j n : Nat) : Prop :=
  ∀ offset < 3, recordByte image j offset = recordByte image n offset

instance (image : List UInt8) (j n : Nat) : Decidable (SamePlace image j n) :=
  inferInstanceAs (Decidable (∀ offset < 3, _))

/-- Every handle with all bits set is in the shadow of an earlier record at its place. -/
def FullHandlesShadowed (image : List UInt8) : Prop :=
  ∀ n < image.length / 8, recordHandle image n = 0xffffffff → ∃ j < n, SamePlace image j n

instance (image : List UInt8) : Decidable (FullHandlesShadowed image) :=
  inferInstanceAs (Decidable (∀ n < image.length / 8, _))

/-- Every device is named by some arguments. -/
theorem Device.exists_namedBy (device : Device) :
    ∃ kind role index : Int32, device.NamedBy kind role index := by
  have hk := device.place.kind.code_toNat_le
  have hr := device.place.role.code_toNat_le
  have hi := device.place.index.toNat_lt
  refine ⟨Int32.ofNat device.place.kind.code.toNat, Int32.ofNat device.place.role.code.toNat,
    Int32.ofNat device.place.index.toNat, ?_, ?_, ?_⟩
  · exact Int32.toInt_ofNat_of_lt (by omega)
  · exact Int32.toInt_ofNat_of_lt (by omega)
  · rw [Int32.toInt_ofNat_of_lt (by omega)]
    omega

/-- Arguments that name a device find the first one at its place. -/
theorem Board.exists_firstAt {board : Board} {n : Nat} {device : Device}
    (hn : board[n]? = some device) {kind role index : Int32} (h : device.NamedBy kind role index) :
    ∃ j ≤ n, ∃ other, board.FirstAt kind role index j other := by
  cases hfound : board.findByArguments? kind role index with
  | none =>
    rw [findByArguments?_eq_none_iff] at hfound
    exact absurd h (hfound device (List.mem_of_getElem? hn))
  | some other =>
    obtain ⟨j, hfirst⟩ := (findByArguments?_eq_some_iff_firstAt ..).1 hfound
    refine ⟨j, Nat.le_of_not_lt fun hlt => ?_, other, hfirst⟩
    exact hfirst.first n hlt device hn h

section Image

variable {image : List UInt8} {board : Board} (hd : Board.decode image = .ok board)
  {j n : Nat} {other device : Device} {kind role index : Int32}

include hd in
/-- Of two records at one place, arguments name both or neither. -/
theorem SamePlace.namedBy (h : SamePlace image j n) (hj : board[j]? = some other)
    (hn : board[n]? = some device) (hnamed : device.NamedBy kind role index) :
    other.NamedBy kind role index := by
  obtain ⟨hkind, hrole, hindex, -, -⟩ := record_of_decode hd hn
  obtain ⟨hkind', hrole', hindex', -, -⟩ := record_of_decode hd hj
  unfold Device.NamedBy at hnamed ⊢
  rwa [← hkind', ← hrole', ← hindex', h 0 (by decide), h 1 (by decide), h 2 (by decide), hkind,
    hrole, hindex]

include hd in
/-- Records that the same arguments name are at one place. -/
theorem samePlace_of_namedBy (hj : board[j]? = some other) (hn : board[n]? = some device)
    (hother : other.NamedBy kind role index) (hdevice : device.NamedBy kind role index) :
    SamePlace image j n := by
  obtain ⟨hkind, hrole, hindex, -, -⟩ := record_of_decode hd hn
  obtain ⟨hkind', hrole', hindex', -, -⟩ := record_of_decode hd hj
  obtain ⟨hk, hr, hi⟩ := hdevice
  obtain ⟨hk', hr', hi'⟩ := hother
  intro offset hoffset
  obtain rfl | rfl | rfl : offset = 0 ∨ offset = 1 ∨ offset = 2 := by omega
  · rw [hkind, hkind', ← UInt8.toNat_inj]
    omega
  · rw [hrole, hrole', ← UInt8.toNat_inj]
    omega
  · rw [hindex, hindex', ← UInt8.toNat_inj]
    omega

end Image

namespace Capability

section Answers

variable (board : Board) (kind role index : Int32)

theorem present_eq_zero_iff :
    Query.present.answer board ⟨kind, role, index⟩ = 0 ↔
      board.findByArguments? kind role index = none := by
  cases h : board.findByArguments? kind role index with
  | none => simp only [(answer_of_missed h).1]
  | some device =>
    rw [(answer_of_found h).1]
    simp

/-- No flag byte is negative as a number. -/
theorem flags_eq_miss_iff :
    Query.flags.answer board ⟨kind, role, index⟩ = -1 ↔
      board.findByArguments? kind role index = none := by
  cases h : board.findByArguments? kind role index with
  | none => simp only [(answer_of_missed h).2.1]
  | some device =>
    have hflags := (answer_of_found h).2.1
    have hmiss : (-1 : Int32).toInt = -1 := rfl
    rw [← Int32.toInt_inj, hflags, hmiss]
    simp

/-- One handle reads as the miss does. -/
theorem handle_eq_miss_iff :
    Query.handle.answer board ⟨kind, role, index⟩ = -1 ↔
      board.findByArguments? kind role index = none ∨
        ∃ n device, board.FirstAt kind role index n device ∧ device.handle = 0xffffffff := by
  have hfirst := board.findByArguments?_eq_some_iff_firstAt kind role index
  cases h : board.findByArguments? kind role index with
  | none => simp only [(answer_of_missed h).2.2, true_or]
  | some device =>
    have hhandle := (answer_of_found h).2.2
    have hmiss : Query.handle.answer board ⟨kind, role, index⟩ = -1 ↔
        (Query.handle.answer board ⟨kind, role, index⟩).toUInt32 = 0xffffffff :=
      Iff.of_eq (Int32.ofUInt32.injEq _ _)
    rw [hmiss, hhandle]
    constructor
    · intro hfull
      obtain ⟨n, hn⟩ := (hfirst device).1 h
      exact Or.inr ⟨n, device, hn, hfull⟩
    · rintro (hnone | ⟨n, other, hn, hfull⟩)
      · cases hnone
      · have hother := (hfirst other).2 ⟨n, hn⟩
        rw [h] at hother
        cases hother
        exact hfull

end Answers

/-- The handle tells every miss of a board just if no handle with all bits set can be found. -/
theorem handle_tells_iff {image : List UInt8} {board : Board}
    (hd : Board.decode image = .ok board) :
    (∀ kind role index, Query.handle.answer board ⟨kind, role, index⟩ = -1 ↔
      board.findByArguments? kind role index = none) ↔ FullHandlesShadowed image := by
  have hlength := length_of_decode hd
  constructor
  · intro htells n hn hfull
    have hdevice : board[n]? = some board[n] := List.getElem?_eq_getElem (hlength ▸ hn)
    obtain ⟨kind, role, index, hnamed⟩ := board[n].exists_namedBy
    obtain ⟨j, hle, other, hfirst⟩ := Board.exists_firstAt hdevice hnamed
    have hfound := (board.findByArguments?_eq_some_iff_firstAt kind role index other).2 ⟨j, hfirst⟩
    -- a hit at record `n` itself would read as a miss
    have hne : j ≠ n := by
      rintro rfl
      have hhandle := (record_of_decode hd hfirst.here).2.2.2.1
      have hmiss := (handle_eq_miss_iff board kind role index).2
        (Or.inr ⟨j, other, hfirst, hhandle ▸ hfull⟩)
      rw [(htells kind role index).1 hmiss] at hfound
      cases hfound
    exact ⟨j, by omega, samePlace_of_namedBy hd hfirst.here hdevice hfirst.named hnamed⟩
  · intro hshadowed kind role index
    rw [handle_eq_miss_iff]
    refine or_iff_left ?_
    rintro ⟨n, device, hfirst, hfull⟩
    have hn : n < image.length / 8 := by
      rw [hlength]
      exact (List.getElem?_eq_some_iff.1 hfirst.here).1
    have hhandle := (record_of_decode hd hfirst.here).2.2.2.1
    obtain ⟨j, hj, hsame⟩ := hshadowed n hn (hhandle.trans hfull)
    have hother : board[j]? = some board[j] :=
      List.getElem?_eq_getElem (by rw [← hlength]; omega)
    exact hfirst.first j hj _ hother (hsame.namedBy hd hother hfirst.here hfirst.named)

end Capability

/-- A machine that answers capability calls over an accepted image. The flags are -1 exactly if
there is no device. The handle is -1 if there is none, or if the first device that the arguments
name has a handle with all bits set; it tells every miss exactly if each such handle is in the
shadow of an earlier record at its place. -/
theorem miss_told_unless_handle_full {rig : Rig} {caller owner : Nat} {machine : Machine}
    {image : List UInt8} {board : Board} (hm : rig.machines[owner]? = some machine)
    (hb : machine.board = some board) (hd : Board.decode image = .ok board)
    (hasked : ∀ query : Capability.Query, ∃ origin,
      rig.lookup caller query.number = some ⟨origin, .capability query owner⟩) :
    let ask (query : Capability.Query) (kind role index : Int32) :=
      (rig.invoke caller query.number ⟨kind, role, index⟩).answer
    (∀ kind role index, ask .flags kind role index = -1 ↔ ask .present kind role index = 0) ∧
    (∀ kind role index, ask .handle kind role index = -1 ↔
      ask .present kind role index = 0 ∨
        ∃ n device, board.FirstAt kind role index n device ∧ device.handle = 0xffffffff) ∧
    ((∀ kind role index, ask .handle kind role index = -1 ↔ ask .present kind role index = 0) ↔
      FullHandlesShadowed image) := by
  intro ask
  have hdevices : machine.devices = board := by rw [Machine.devices, hb, Option.getD_some]
  have hask : ∀ query k r i, ask query k r i = query.answer board ⟨k, r, i⟩ :=
    hdevices ▸ Rig.answer_of_asked hm hasked
  simp only [hask, Capability.present_eq_zero_iff]
  exact ⟨Capability.flags_eq_miss_iff board, Capability.handle_eq_miss_iff board,
    Capability.handle_tells_iff hd⟩

/-- A runtime with its standard handlers over an image. -/
def surveyedRig (image : List UInt8) : Rig :=
  Rig.after ⟨[{ platform := some 7 }], [], some (.upTo .trace)⟩
    [⟨0, .setBoard (some image)⟩, ⟨0, .registerStandard⟩]

/-- Two LEDs at one place. The second one has all bits of its handle set and is never found. -/
def shadowingImage : List UInt8 :=
  [1, 2, 1, 0xff, 0xfe, 0xff, 0xff, 0xff, 1, 2, 1, 0, 0xff, 0xff, 0xff, 0xff]

/-- So the handles of this board tell every miss, though one of them is -2. -/
theorem miss_told_unless_handle_full_shadowed :
    let ask (query : Capability.Query) (kind role index : Int32) :=
      ((surveyedRig shadowingImage).invoke 0 query.number ⟨kind, role, index⟩).answer
    Board.decode shadowingImage = .ok ((surveyedRig shadowingImage).devices 0) ∧
    FullHandlesShadowed shadowingImage ∧ ask .handle 1 2 (-255) = -2 ∧
    (∀ kind role index, ask .flags kind role index = -1 ↔ ask .present kind role index = 0) ∧
    ∀ kind role index, ask .handle kind role index = -1 ↔ ask .present kind role index = 0 := by
  intro ask
  have hm : (surveyedRig shadowingImage).machines[0]? =
      some (surveyedRig shadowingImage).machines[0] := rfl
  have hd : Board.decode shadowingImage = .ok ((surveyedRig shadowingImage).devices 0) := rfl
  have hasked : ∀ query : Capability.Query, ∃ origin,
      (surveyedRig shadowingImage).lookup 0 query.number = some ⟨origin, .capability query 0⟩ := by
    intro query
    cases query <;> exact ⟨_, rfl⟩
  have hshadowed : FullHandlesShadowed shadowingImage := by decide
  obtain ⟨hflags, -, hhandles⟩ := miss_told_unless_handle_full hm rfl hd hasked
  exact ⟨hd, hshadowed, by decide, hflags, hhandles.2 hshadowed⟩

/-- A storage device at a place of its own, with all bits of its handle set. -/
def fullImage : List UInt8 := [10, 0, 0, 0, 0xff, 0xff, 0xff, 0xff]

/-- The device is there, and its handle reads as if it were not. -/
theorem full_handle_reads_as_miss :
    let ask (query : Capability.Query) :=
      ((surveyedRig fullImage).invoke 0 query.number ⟨10, 0, 0⟩).answer
    Board.decode fullImage = .ok ((surveyedRig fullImage).devices 0) ∧
    ask .present = 1 ∧ ask .flags = 0 ∧ ask .handle = -1 ∧
    ¬ (ask .handle = -1 ↔ ask .present = 0) := by
  decide

end Switchboard
