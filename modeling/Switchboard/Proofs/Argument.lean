import Switchboard.Led.Drive
import Switchboard.Proofs.Image

/-!
# What raw arguments name

A kind or role argument names exactly its code over all 32-bit values; an index argument
counts modulo 256. The packed word of the setting call is read with a shift and two masks.
-/
namespace Switchboard

private theorem clamped_lookup {α : Type} {all : List α} {code : α → Nat}
    (hl : ∀ n a, all[n]? = some a ↔ n = code a) (argument : Int32) (a : α) :
    (if argument < 0 then none else all[argument.toNatClampNeg]?) = some a ↔
      argument.toInt = code a := by
  have hz : argument < 0 ↔ argument.toInt < 0 := by
    rw [Int32.lt_iff_toInt_lt, Int32.toInt_zero]
  have hc : argument.toNatClampNeg = argument.toInt.toNat := rfl
  by_cases hn : argument < 0
  · have hneg := hz.1 hn
    rw [if_pos hn]
    constructor
    · intro h
      cases h
    · intro h
      omega
  · have hnonneg : ¬ argument.toInt < 0 := fun h => hn (hz.2 h)
    rw [if_neg hn, hl, hc]
    omega

theorem Kind.ofArgument?_eq_some_iff (argument : Int32) (kind : Kind) :
    Kind.ofArgument? argument = some kind ↔ argument.toInt = kind.code.toNat :=
  clamped_lookup Kind.getElem?_all_iff argument kind

theorem Role.ofArgument?_eq_some_iff (argument : Int32) (role : Role) :
    Role.ofArgument? argument = some role ↔ argument.toInt = role.code.toNat :=
  clamped_lookup Role.getElem?_all_iff argument role

theorem low_byte (n : Int) : ((UInt8.ofInt n).toNat : Int) = n % 256 := by
  rw [UInt8.ofInt, UInt8.toNat_ofNat']
  omega

/-- Kind and role are exact; only the index is cut to its low byte. -/
theorem Place.ofArguments?_eq_some_iff (kind role index : Int32) (place : Place) :
    Place.ofArguments? kind role index = some place ↔
      kind.toInt = place.kind.code.toNat ∧ role.toInt = place.role.code.toNat ∧
        (place.index.toNat : Int) = index.toInt % 256 := by
  have hk := Kind.ofArgument?_eq_some_iff kind place.kind
  have hr := Role.ofArgument?_eq_some_iff role place.role
  have hi : UInt8.ofInt index.toInt = place.index ↔
      (place.index.toNat : Int) = index.toInt % 256 := by
    rw [← low_byte, ← UInt8.toNat_inj]
    omega
  obtain ⟨k, r, i⟩ := place
  simp only [Place.ofArguments?, Option.bind_eq_bind, Option.bind_eq_some_iff, Option.pure_def,
    Option.some.injEq, Place.mk.injEq]
  rw [← hk, ← hr, ← hi]
  constructor
  · rintro ⟨k', hk', r', hr', rfl, rfl, hi'⟩
    exact ⟨hk', hr', hi'⟩
  · rintro ⟨hk', hr', hi'⟩
    exact ⟨k, hk', r, hr', rfl, rfl, hi'⟩

/-- The device sits where three raw arguments point. -/
def Device.NamedBy (device : Device) (kind role index : Int32) : Prop :=
  kind.toInt = device.place.kind.code.toNat ∧ role.toInt = device.place.role.code.toNat ∧
    (device.place.index.toNat : Int) = index.toInt % 256

theorem Device.namedBy_iff (device : Device) (kind role index : Int32) :
    device.NamedBy kind role index ↔ Place.ofArguments? kind role index = some device.place :=
  (Place.ofArguments?_eq_some_iff kind role index device.place).symm

theorem Board.find?_eq_some_iff (board : Board) (place : Place) (device : Device) :
    board.find? place = some device ↔ device.place = place ∧
      ∃ n : Nat, board[n]? = some device ∧ ∀ j < n, ∀ other : Device, board[j]? = some other →
        other.place ≠ place := by
  unfold Board.find?
  rw [List.find?_eq_some_iff_getElem]
  simp only [Device.sitsAt, beq_iff_eq, Bool.not_eq_true', beq_eq_false_iff_ne]
  refine and_congr_right fun _ => ⟨?_, ?_⟩
  · rintro ⟨n, hn, hd, hfirst⟩
    refine ⟨n, List.getElem?_eq_some_iff.2 ⟨hn, hd⟩, ?_⟩
    intro j hj other ho
    obtain ⟨hlt, rfl⟩ := List.getElem?_eq_some_iff.1 ho
    exact hfirst j hj
  · rintro ⟨n, hd, hfirst⟩
    obtain ⟨hn, hd⟩ := List.getElem?_eq_some_iff.1 hd
    exact ⟨n, hn, hd, fun j hj => hfirst j hj _ (List.getElem?_eq_some_iff.2 ⟨by omega, rfl⟩)⟩

/-- A triple of arguments finds the first device that it names, and no other. -/
theorem Board.findByArguments?_eq_some_iff (board : Board) (kind role index : Int32)
    (device : Device) :
    board.findByArguments? kind role index = some device ↔ device.NamedBy kind role index ∧
      ∃ n : Nat, board[n]? = some device ∧ ∀ j < n, ∀ other : Device, board[j]? = some other →
        ¬ other.NamedBy kind role index := by
  simp only [Device.namedBy_iff, Board.findByArguments?]
  cases hp : Place.ofArguments? kind role index with
  | none =>
    constructor
    · intro h
      cases h
    · rintro ⟨h, -⟩
      cases h
  | some place =>
    have hsymm : ∀ other : Device, place = other.place ↔ other.place = place :=
      fun _ => eq_comm
    change board.find? place = some device ↔ _
    rw [Board.find?_eq_some_iff]
    simp only [Option.some.injEq, hsymm, ne_eq]

/-- A triple of arguments finds nothing only where it names no device. -/
theorem Board.findByArguments?_eq_none_iff (board : Board) (kind role index : Int32) :
    board.findByArguments? kind role index = none ↔
      ∀ device ∈ board, ¬ device.NamedBy kind role index := by
  simp only [Device.namedBy_iff, Board.findByArguments?]
  cases hp : Place.ofArguments? kind role index with
  | none => simp
  | some place =>
    show List.find? (·.sitsAt place) board = none ↔ _
    rw [List.find?_eq_none]
    refine forall_congr' fun device => forall_congr' fun _ => not_congr ?_
    rw [Device.sitsAt, beq_iff_eq, Option.some.injEq, eq_comm]

/-- Whole turns of the index lead to the same device. -/
theorem Board.findByArguments?_index_mod (board : Board) (kind role : Int32) {one other : Int32}
    (h : one.toInt % 256 = other.toInt % 256) :
    board.findByArguments? kind role one = board.findByArguments? kind role other := by
  have hbyte : UInt8.ofInt one.toInt = UInt8.ofInt other.toInt := by
    have hone := low_byte one.toInt
    have hother := low_byte other.toInt
    rw [← UInt8.toNat_inj]
    omega
  simp only [findByArguments?, Place.ofArguments?, hbyte]

theorem Led.locate_eq_ok_iff (board : Board) (target : Target) (device : Device) :
    locate board target = .ok device ↔ target.kind.toInt = 1 ∧
      board.findByArguments? target.kind target.role target.index = some device := by
  have hk : Kind.ofArgument? target.kind = some .led ↔ target.kind.toInt = 1 :=
    Kind.ofArgument?_eq_some_iff target.kind .led
  unfold locate
  rw [← hk]
  by_cases h : Kind.ofArgument? target.kind = some .led
  · rw [if_pos h]
    cases hf : board.findByArguments? target.kind target.role target.index with
    | none => simp
    | some found => simp [h]
  · rw [if_neg h]
    simp [h]

/-- A mask of `m` ones keeps the low `m` bits. -/
private theorem and_mask (word : BitVec 32) (m : Nat) :
    word &&& (BitVec.allOnes m).setWidth 32 = (word.setWidth m).setWidth 32 := by
  apply BitVec.eq_of_getLsbD_eq
  intro i hi
  rw [BitVec.getLsbD_and, BitVec.getLsbD_setWidth, BitVec.getLsbD_setWidth,
    BitVec.getLsbD_setWidth, BitVec.getLsbD_allOnes]
  by_cases h : i < m <;> simp [h, hi]

namespace Led

/-- Bits 16 to 23 of the word, whatever its sign. -/
theorem unpack_index (arguments : Arguments) :
    (unpack arguments).target.index = (arguments.third >>> 16) &&& 0xff := by
  apply Int32.toBitVec_inj.1
  have hb : (unpack arguments).target.index.toBitVec =
      (arguments.third.toBitVec.extractLsb' 16 8).setWidth 32 := BitVec.ofNat_toNat ..
  have hm : (0xff : Int32).toBitVec = (BitVec.allOnes 8).setWidth 32 := by decide
  have hs : (arguments.third >>> 16).toBitVec = arguments.third.toBitVec.sshiftRight 16 := rfl
  rw [hb, Int32.toBitVec_and, hs, hm, and_mask]
  congr 1
  apply BitVec.eq_of_getLsbD_eq
  intro i hi
  -- below bit 8 the shift reads no copy of the sign bit
  rw [BitVec.getLsbD_extractLsb', BitVec.getLsbD_setWidth, BitVec.getLsbD_sshiftRight]
  simp [hi, show 16 + i < 32 by omega, show ¬ 32 ≤ i by omega]

/-- Any set bit among the low sixteen. -/
theorem unpack_state (arguments : Arguments) :
    (unpack arguments).state = (arguments.third &&& 0xffff != 0) := by
  have hm : (0xffff : Int32).toBitVec = (BitVec.allOnes 16).setWidth 32 := by decide
  have hz : (0 : Int32).toBitVec = 0#32 := rfl
  have h : arguments.third.toBitVec.extractLsb' 0 16 = 0 ↔ arguments.third &&& 0xffff = 0 := by
    rw [← Int32.toBitVec_inj, Int32.toBitVec_and, hm, and_mask, hz,
      ← BitVec.setWidth_eq_extractLsb' (by decide), ← BitVec.toNat_inj, ← BitVec.toNat_inj]
    simp only [BitVec.toNat_setWidth]
    change _ = 0 ↔ _ = 0
    omega
  simp only [unpack]
  rw [Bool.eq_iff_iff, bne_iff_ne, bne_iff_ne, ne_eq, ne_eq, h]

/-- What was packed comes out again. -/
theorem unpack_pack (kind role : Int32) (index : UInt8) (state : Bool) :
    unpack ⟨kind, role, pack index state⟩ = ⟨⟨kind, role, Int32.ofNat index.toNat⟩, state⟩ := by
  have hindex : index.toNat < 2 ^ 8 := index.toNat_lt
  have hstate : state.toNat < 2 := state.toNat_lt
  have hword : (pack index state).toBitVec.toNat = index.toNat * 65536 + state.toNat := by
    have hpack : (pack index state).toBitVec =
        BitVec.ofNat 32 (index.toNat * 65536 + state.toNat) := rfl
    rw [hpack, BitVec.toNat_ofNat]
    omega
  have hhigh : ((pack index state).toBitVec.extractLsb' 16 8).toNat = index.toNat := by
    rw [BitVec.extractLsb'_toNat, hword, Nat.shiftRight_eq_div_pow]
    omega
  have hlow : ((pack index state).toBitVec.extractLsb' 0 16).toNat = state.toNat := by
    rw [BitVec.extractLsb'_toNat, hword, Nat.shiftRight_zero]
    omega
  have hbit : ((pack index state).toBitVec.extractLsb' 0 16 != 0) = state := by
    rw [Bool.eq_iff_iff, bne_iff_ne, ne_eq, ← BitVec.toNat_inj, hlow]
    cases state <;> decide
  simp only [unpack, hhigh, hbit]

/-- The packed index is a byte already. -/
theorem unpack_index_mod (arguments : Arguments) :
    (unpack arguments).target.index.toInt % 256 = (unpack arguments).target.index.toInt := by
  have hlt : (arguments.third.toBitVec.extractLsb' 16 8).toNat < 2 ^ 8 := BitVec.isLt _
  simp only [unpack]
  rw [Int32.toInt_ofNat_of_lt (by omega)]
  omega

end Led

end Switchboard
