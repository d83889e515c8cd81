import Mathlib.Data.Set.Basic
import Mathlib.Data.Set.Operations
import Mathlib.Logic.ExistsUnique
import Mathlib.Logic.Function.Basic
import Switchboard.Proofs.Argument

/-!
# The canonical form of a setting word

Many words ask for the same setting: the byte above the index counts for nothing, and the low half
counts only as zero or not. Of all words with one meaning, packing gives exactly one, in which no
bit is set that could be clear. These canonical words are the packed ones, and unpacking tells
words apart exactly if their canonical forms differ.
-/
namespace Switchboard

namespace Led

def bit (word : Int32) (i : Nat) : Bool := word.toBitVec.getLsbD i

/-- No bit is set but in the index byte and, for the state, the lowest one. -/
def Canonical (word : Int32) : Prop := ∀ i < 32, bit word i = true → i = 0 ∨ 16 ≤ i ∧ i < 24

/-- The words agree on the index byte and on whether the low half is all clear. -/
structure SameSetting (one other : Int32) : Prop where
  index : ∀ i, 16 ≤ i → i < 24 → bit one i = bit other i
  clear : (∀ i < 16, bit one i = false) ↔ ∀ i < 16, bit other i = false

/-- The word that packs a setting, with the low byte of its index. -/
def Setting.word (setting : Setting) : Int32 :=
  pack (UInt8.ofInt setting.target.index.toInt) setting.state

section Unpack

variable (arguments : Arguments)

/-- The index is a byte. -/
theorem unpack_index_toInt :
    (unpack arguments).target.index.toInt =
      (arguments.third.toBitVec.extractLsb' 16 8).toNat := by
  have hlt : (arguments.third.toBitVec.extractLsb' 16 8).toNat < 2 ^ 8 := BitVec.isLt _
  exact Int32.toInt_ofNat_of_lt (by omega)

theorem unpack_index_bounds :
    0 ≤ (unpack arguments).target.index ∧ (unpack arguments).target.index ≤ 255 := by
  have hlt : (arguments.third.toBitVec.extractLsb' 16 8).toNat < 2 ^ 8 := BitVec.isLt _
  have hint := unpack_index_toInt arguments
  rw [Int32.le_iff_toInt_le, Int32.le_iff_toInt_le, hint]
  show (0 : Int) ≤ _ ∧ _ ≤ (255 : Int)
  omega

theorem unpack_index_eq_iff (other : Arguments) :
    (unpack arguments).target.index = (unpack other).target.index ↔
      ∀ i, 16 ≤ i → i < 24 → bit arguments.third i = bit other.third i := by
  rw [← Int32.toInt_inj, unpack_index_toInt, unpack_index_toInt, Int.ofNat_inj, BitVec.toNat_inj]
  constructor
  · intro h i hlow hhigh
    have hbit := congrArg (BitVec.getLsbD · (i - 16)) h
    simp only [BitVec.getLsbD_extractLsb', show i - 16 < 8 by omega, decide_true, Bool.true_and,
      show 16 + (i - 16) = i by omega] at hbit
    exact hbit
  · intro h
    apply BitVec.eq_of_getLsbD_eq
    intro i hi
    rw [BitVec.getLsbD_extractLsb', BitVec.getLsbD_extractLsb']
    exact congrArg _ (h (16 + i) (by omega) (by omega))

theorem unpack_state_eq_false_iff :
    (unpack arguments).state = false ↔ ∀ i < 16, bit arguments.third i = false := by
  show (arguments.third.toBitVec.extractLsb' 0 16 != 0) = false ↔ _
  rw [bne_eq_false_iff_eq]
  constructor
  · intro h i hi
    have hbit := congrArg (BitVec.getLsbD · i) h
    simp only [BitVec.getLsbD_extractLsb', hi, decide_true, Bool.true_and, Nat.zero_add,
      BitVec.ofNat_eq_ofNat, BitVec.getLsbD_zero] at hbit
    exact hbit
  · intro h
    apply BitVec.eq_of_getLsbD_eq
    intro i hi
    rw [BitVec.getLsbD_extractLsb', Nat.zero_add, BitVec.ofNat_eq_ofNat, BitVec.getLsbD_zero]
    exact Bool.and_eq_false_imp.2 fun _ => h i hi

end Unpack

section Words

variable (kind role : Int32)

theorem unpack_eq_iff (one other : Int32) :
    unpack ⟨kind, role, one⟩ = unpack ⟨kind, role, other⟩ ↔ SameSetting one other := by
  have hindex := unpack_index_eq_iff ⟨kind, role, one⟩ ⟨kind, role, other⟩
  have hone := unpack_state_eq_false_iff ⟨kind, role, one⟩
  have hother := unpack_state_eq_false_iff ⟨kind, role, other⟩
  constructor
  · intro h
    refine ⟨hindex.1 (congrArg (·.target.index) h), ?_⟩
    rw [← hone, ← hother, h]
  · intro h
    have hstate : (unpack ⟨kind, role, one⟩).state = (unpack ⟨kind, role, other⟩).state := by
      rw [Bool.eq_iff_iff, ← Bool.not_eq_false, ← Bool.not_eq_false]
      exact not_congr (hone.trans (h.clear.trans hother.symm))
    have htarget : (unpack ⟨kind, role, one⟩).target = (unpack ⟨kind, role, other⟩).target :=
      congrArg (Target.mk kind role) (hindex.2 h.index)
    exact congrArg₂ Setting.mk htarget hstate

/-- Packing what was unpacked changes the word at most, never its meaning. -/
theorem unpack_word (word : Int32) :
    unpack ⟨kind, role, (unpack ⟨kind, role, word⟩).word⟩ = unpack ⟨kind, role, word⟩ := by
  have hlt : (word.toBitVec.extractLsb' 16 8).toNat < 2 ^ 8 := BitVec.isLt _
  have hint := unpack_index_toInt ⟨kind, role, word⟩
  have hbyte : Int32.ofNat (UInt8.ofInt (unpack ⟨kind, role, word⟩).target.index.toInt).toNat =
      (unpack ⟨kind, role, word⟩).target.index := by
    have hlow := low_byte (unpack ⟨kind, role, word⟩).target.index.toInt
    rw [← Int32.toInt_inj, Int32.toInt_ofNat_of_lt (by omega), hlow, hint]
    omega
  rw [Setting.word, unpack_pack, hbyte]
  rfl

end Words

theorem pack_toNat (index : UInt8) (state : Bool) :
    (pack index state).toBitVec.toNat = index.toNat * 65536 + state.toNat := by
  have hindex : index.toNat < 2 ^ 8 := index.toNat_lt
  have hstate : state.toNat < 2 := state.toNat_lt
  have hpack : (pack index state).toBitVec =
      BitVec.ofNat 32 (index.toNat * 65536 + state.toNat) := rfl
  rw [hpack, BitVec.toNat_ofNat]
  omega

theorem canonical_pack (index : UInt8) (state : Bool) : Canonical (pack index state) := by
  have hstate : state.toNat < 2 ^ 16 := Nat.lt_trans state.toNat_lt (by decide)
  have hsum : (pack index state).toBitVec.toNat = 2 ^ 16 * index.toNat + state.toNat := by
    rw [pack_toNat]
    omega
  intro i _ hbit
  rw [bit, BitVec.getLsbD, hsum, Nat.testBit_two_pow_mul_add _ hstate] at hbit
  split at hbit
  · rw [Nat.testBit_bool_toNat, Bool.and_eq_true, decide_eq_true_iff] at hbit
    exact Or.inl hbit.1
  · have hhigh : i - 16 < 8 := index.toBitVec.lt_of_getLsbD hbit
    exact Or.inr ⟨by omega, by omega⟩

/-- Among the words with one meaning at most one is canonical. -/
theorem Canonical.eq_of_sameSetting {one other : Int32} (hone : Canonical one)
    (hother : Canonical other) (h : SameSetting one other) : one = other := by
  have hclear : ∀ {word : Int32}, Canonical word → ∀ i < 32, i ≠ 0 → ¬ (16 ≤ i ∧ i < 24) →
      bit word i = false := by
    intro word hword i hi hzero hindex
    exact Bool.eq_false_iff.2 fun hset => (hword i hi hset).elim hzero hindex
  have hlow : ∀ {word : Int32}, Canonical word →
      ((∀ i < 16, bit word i = false) ↔ bit word 0 = false) := by
    intro word hword
    refine ⟨fun hall => hall 0 (by omega), fun hzero i hi => ?_⟩
    by_cases hi0 : i = 0
    · rw [hi0, hzero]
    · exact hclear hword i (by omega) hi0 (by omega)
  apply Int32.toBitVec_inj.1
  apply BitVec.eq_of_getLsbD_eq
  intro i hi
  show bit one i = bit other i
  by_cases hi0 : i = 0
  · have hstate := h.clear
    rw [hlow hone, hlow hother] at hstate
    rw [hi0, Bool.eq_iff_iff, ← Bool.not_eq_false, ← Bool.not_eq_false]
    exact not_congr hstate
  · by_cases hindex : 16 ≤ i ∧ i < 24
    · exact h.index i hindex.1 hindex.2
    · rw [hclear hone i hi hi0 hindex, hclear hother i hi hi0 hindex]

/-- A word is canonical exactly if packing what it means gives it back. -/
theorem canonical_iff (kind role word : Int32) :
    Canonical word ↔ (unpack ⟨kind, role, word⟩).word = word := by
  constructor
  · intro h
    exact (canonical_pack _ _).eq_of_sameSetting h
      ((unpack_eq_iff kind role _ _).1 (unpack_word kind role word))
  · intro h
    rw [← h]
    exact canonical_pack _ _

theorem pack_injective2 : Function.Injective2 pack := by
  intro index other state another h
  have hread : unpack ⟨0, 0, pack index state⟩ = unpack ⟨0, 0, pack other another⟩ := by rw [h]
  rw [unpack_pack, unpack_pack] at hread
  have hindex := congrArg (·.target.index.toInt) hread
  have hone := index.toNat_lt
  have hother := other.toNat_lt
  simp only at hindex
  rw [Int32.toInt_ofNat_of_lt (by omega), Int32.toInt_ofNat_of_lt (by omega)] at hindex
  exact ⟨UInt8.toNat_inj.1 (Int.ofNat_inj.1 hindex), congrArg Setting.state hread⟩

end Led

open Led in
/-- Unpacking keeps kind and role, yields an index that is a byte, and does not change by packing
its outcome again. Two words mean the same exactly if they agree on the index byte and on whether
the low half is all clear. What was packed comes out exactly, so packing is injective; its image
are the canonical words, which are those that packing gives back, and every word means the same as
exactly one of them. -/
theorem setting_word_canonical (kind role : Int32) :
    let read (word : Int32) := unpack ⟨kind, role, word⟩
    (∀ word, (read word).target.kind = kind ∧ (read word).target.role = role ∧
      0 ≤ (read word).target.index ∧ (read word).target.index ≤ 255 ∧
      read (read word).word = read word) ∧
    (∀ one other, read one = read other ↔ SameSetting one other) ∧
    (∀ index state, read (pack index state) = ⟨⟨kind, role, Int32.ofNat index.toNat⟩, state⟩) ∧
    Function.Injective2 pack ∧
    Set.range (fun pair : UInt8 × Bool => pack pair.1 pair.2) = {word | Canonical word} ∧
    (∀ word, Canonical word ↔ (read word).word = word) ∧
    ∀ word, ∃! canonical, Canonical canonical ∧ read canonical = read word := by
  intro read
  refine ⟨?_, unpack_eq_iff kind role, unpack_pack kind role, pack_injective2, ?_,
    canonical_iff kind role, ?_⟩
  · intro word
    obtain ⟨hlow, hhigh⟩ := unpack_index_bounds ⟨kind, role, word⟩
    exact ⟨rfl, rfl, hlow, hhigh, unpack_word kind role word⟩
  · apply Set.Subset.antisymm
    · rintro word ⟨⟨index, state⟩, rfl⟩
      exact canonical_pack index state
    · intro word h
      exact ⟨(_, _), (canonical_iff kind role word).1 h⟩
  · intro word
    refine ⟨(read word).word, ⟨canonical_pack _ _, unpack_word kind role word⟩, ?_⟩
    rintro other ⟨hother, hsame⟩
    refine hother.eq_of_sameSetting (canonical_pack _ _) ?_
    exact (unpack_eq_iff kind role _ _).1 (hsame.trans (unpack_word kind role word).symm)

end Switchboard
