import Switchboard.Proofs.CommandCall

/-!
# Setting is lighting or putting out

A caller who sets an LED packs two values into one word, and gets what a caller gets who lights the
LED or puts it out and passes the index as it is. This holds of every word, packed by someone or
not: the sign and the bits above the index count for nothing, and any bit among the low sixteen
means on. Only the notice of a failure tells the calls apart, by the arguments in it.
-/
namespace Switchboard

/-- The operation without a packed argument that a setting word stands for. -/
def Led.Operation.plain (word : Int32) : Operation := if word &&& 0xffff = 0 then off else on

namespace Rig

variable {rig : Rig} {self owner : Nat}

/-- Two LED calls come to the same if their commands do. -/
theorem invoke_outcome_congr {number other : CallNumber} {origin another : Origin}
    {operation plain : Led.Operation} {arguments direct : Arguments}
    (hl : rig.lookup self number = some ⟨origin, .led operation owner⟩)
    (hplain : rig.lookup self other = some ⟨another, .led plain owner⟩)
    (h : rig.led owner (operation.command arguments) = rig.led owner (plain.command direct)) :
    (rig.invoke self number arguments).outcome = (rig.invoke self other direct).outcome := by
  rw [invoke_of_led hl, invoke_of_led hplain, Turn.finish_outcome, Turn.finish_outcome, h]

theorem led_set (rig : Rig) (owner : Nat) {kind role word index : Int32}
    (hindex : index.toInt % 256 = Led.Operation.set.index word) :
    rig.led owner (Led.Operation.set.command ⟨kind, role, word⟩) =
      rig.led owner ((Led.Operation.plain word).command ⟨kind, role, index⟩) := by
  let arguments : Arguments := ⟨kind, role, word⟩
  have hset : Led.Operation.set.command arguments =
      ⟨.write (Led.unpack arguments).state,
        { (⟨kind, role, index⟩ : Led.Target) with index := (Led.unpack arguments).target.index }⟩ :=
    rfl
  have hmod := (Led.Operation.set.command_index arguments).trans hindex.symm
  rw [hset, led_index_mod rig owner _ _ hmod, Led.unpack_state]
  unfold Led.Operation.plain
  by_cases hword : word &&& 0xffff = 0
  · have hoff : (arguments.third &&& 0xffff != 0) = false := bne_eq_false_iff_eq.2 hword
    rw [if_pos hword, hoff]
    rfl
  · have hon : (arguments.third &&& 0xffff != 0) = true := bne_iff_ne.2 hword
    rw [if_neg hword, hon]
    rfl

end Rig

/-- With the LED handlers of one owner, setting by any word comes to the same as lighting, or
putting out if the low sixteen bits of the word are clear, at any index with the byte above them as
its low byte: the answer, the rig and the calls to banks are equal, whether the LED is there or
not. -/
theorem set_is_on_or_off {rig : Rig} {self owner : Nat}
    (hlit : ∀ operation : Led.Operation, ∃ origin,
      rig.lookup self operation.number = some ⟨origin, .led operation owner⟩)
    (kind role word index : Int32)
    (hindex : index.toInt % 256 = ((word >>> 16) &&& 0xff).toInt) :
    let set := rig.invoke self .ledSet ⟨kind, role, word⟩
    (word &&& 0xffff ≠ 0 →
      set.outcome = (rig.invoke self .ledOn ⟨kind, role, index⟩).outcome) ∧
    (word &&& 0xffff = 0 →
      set.outcome = (rig.invoke self .ledOff ⟨kind, role, index⟩).outcome) := by
  intro set
  obtain ⟨origin, hset⟩ := hlit .set
  obtain ⟨another, hplain⟩ := hlit (Led.Operation.plain word)
  have hsame : set.outcome =
      (rig.invoke self (Led.Operation.plain word).number ⟨kind, role, index⟩).outcome :=
    Rig.invoke_outcome_congr hset hplain (rig.led_set owner hindex)
  constructor
  · intro hword
    rw [hsame, Led.Operation.plain, if_neg hword]
    rfl
  · intro hword
    rw [hsame, Led.Operation.plain, if_pos hword]
    rfl

/-- A negative word with a bit above the index lights the LED that index -255 means, by the highest
of its low bits alone; without that bit it puts the LED out. -/
theorem set_is_on_or_off_negative :
    let set (word : Int32) := twinRig.invoke 0 .ledSet ⟨1, 2, word⟩
    (set (-0x7ffe8000)).outcome = (twinRig.invoke 0 .ledOn ⟨1, 2, -255⟩).outcome ∧
    (set (-0x7fff0000)).outcome = (twinRig.invoke 0 .ledOff ⟨1, 2, 257⟩).outcome ∧
    (set (-0x7ffe8000)).outcome.2.2 = [(0, .write 10 true true true)] := by
  intro set
  have hlit : ∀ operation : Led.Operation, ∃ origin,
      twinRig.lookup 0 operation.number = some ⟨origin, .led operation 0⟩ := by
    intro operation
    cases operation <;> exact ⟨_, rfl⟩
  obtain ⟨hon, -⟩ := set_is_on_or_off hlit 1 2 (-0x7ffe8000) (-255) (by decide)
  obtain ⟨-, hoff⟩ := set_is_on_or_off hlit 1 2 (-0x7fff0000) 257 (by decide)
  exact ⟨hon (by decide), hoff (by decide), by decide⟩

end Switchboard
