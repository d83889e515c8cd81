import Switchboard.Led.Drive

/-!
# What an action does to a bank

An action asks a bank about one pin and no other. It reads only, or it writes once, and then the
write is among its calls. A bank treats writes the same way before and after. So all that an action
can see or change is what the bank knows of the one pin, and actions on two pins do not meet.
-/
namespace Switchboard

namespace PinBank

@[simp] theorem drive_behaviour (bank : PinBank) (handle : UInt32) (level : Bool) :
    (bank.drive handle level).behaviour = bank.behaviour := rfl

theorem drive_get? (bank : PinBank) (handle other : UInt32) (level : Bool) :
    (bank.drive handle level).levels.get? other =
      if other = handle then some level else bank.levels.get? other :=
  SortedMap.get?_insert ..

/-- A write that is accepted and not lost sets the level. -/
theorem write_of_accepted {bank : PinBank} {handle : UInt32} (h : bank.behaviour ≠ .stuck)
    (ha : bank.accepts handle = true) (state activeLow : Bool) :
    bank.write handle state activeLow = bank.drive handle (state != activeLow) := by
  have hsound : (bank.behaviour != .stuck) = true := bne_iff_ne.2 h
  rw [write, ha, hsound, Bool.and_self, if_pos rfl]

theorem write_of_refused {bank : PinBank} {handle : UInt32}
    (h : bank.accepts handle = false) (state activeLow : Bool) :
    bank.write handle state activeLow = bank := by
  rw [write, h, Bool.false_and, if_neg Bool.false_ne_true]

/-- A write reaches no pin but its own. -/
theorem write_get?_of_ne (bank : PinBank) {handle other : UInt32} (h : other ≠ handle)
    (state activeLow : Bool) :
    (bank.write handle state activeLow).levels.get? other = bank.levels.get? other := by
  unfold write
  split
  · rw [drive_get?, if_neg h]
  · rfl

theorem write_behaviour (bank : PinBank) (handle : UInt32) (state activeLow : Bool) :
    (bank.write handle state activeLow).behaviour = bank.behaviour := by
  unfold write
  split <;> rfl

/-- How the bank treats writes, and the level on record. -/
def pin (bank : PinBank) (handle : UInt32) : Behaviour × Option Bool :=
  (bank.behaviour, bank.levels.get? handle)

/-- A bank is what it knows of its pins. -/
theorem ext_pin {one other : PinBank} (h : ∀ handle, one.pin handle = other.pin handle) :
    one = other := by
  have hbehaviour : one.behaviour = other.behaviour := congrArg Prod.fst (h 0)
  have hlevels : one.levels = other.levels :=
    SortedMap.ext_get? fun handle => congrArg Prod.snd (h handle)
  exact (PinBank.mk.injEq ..).mpr ⟨hbehaviour, hlevels⟩

section Pin

variable {one other : PinBank} {handle : UInt32} (h : one.pin handle = other.pin handle)

include h in
theorem accepts_congr : one.accepts handle = other.accepts handle := by
  have hbehaviour : one.behaviour = other.behaviour := congrArg Prod.fst h
  rw [accepts, accepts, hbehaviour]

include h in
theorem read_congr (activeLow : Bool) :
    one.read handle activeLow = other.read handle activeLow := by
  have hlevel : one.levels.get? handle = other.levels.get? handle := congrArg Prod.snd h
  rw [read, read, level, level, hlevel]

include h in
theorem write_pin_congr (state activeLow : Bool) :
    (one.write handle state activeLow).pin handle =
      (other.write handle state activeLow).pin handle := by
  have hbehaviour : one.behaviour = other.behaviour := congrArg Prod.fst h
  rw [write, write, accepts_congr h, hbehaviour]
  split
  · rw [pin, pin, drive_get?, drive_get?, if_pos rfl, if_pos rfl]
    exact congrArg (·, _) hbehaviour
  · exact h

end Pin

theorem write_pin_of_ne (bank : PinBank) {handle other : UInt32} (h : other ≠ handle)
    (state activeLow : Bool) : (bank.write handle state activeLow).pin other = bank.pin other := by
  rw [pin, write_behaviour, write_get?_of_ne bank h]
  rfl

end PinBank

namespace Led

/-- An action reads and leaves the bank, or it writes once to the pin of its device. -/
theorem perform_cases (action : Action) (bank : PinBank) (device : Device) :
    (action.perform bank device).bank = bank ∨
    ∃ state, (action.perform bank device).bank =
        bank.write device.handle state device.activeLow ∧
      .write device.handle state device.activeLow (bank.accepts device.handle) ∈
        (action.perform bank device).calls := by
  cases action with
  | write state => exact Or.inr ⟨state, rfl, List.mem_singleton.2 rfl⟩
  | toggle => exact Or.inr ⟨_, rfl, List.mem_cons_of_mem _ (List.mem_singleton.2 rfl)⟩
  | read => exact Or.inl rfl

/-- Two banks that know the same of the pin of a device are asked the same, answer the same, and
know the same of the pin afterwards. -/
theorem perform_congr {one other : PinBank} {device : Device}
    (h : one.pin device.handle = other.pin device.handle) (action : Action) :
    let motion := action.perform one device
    let same := action.perform other device
    motion.calls = same.calls ∧ motion.answer = same.answer ∧
      motion.bank.pin device.handle = same.bank.pin device.handle := by
  have haccepts := PinBank.accepts_congr h
  have hread := PinBank.read_congr h device.activeLow
  have hwrite := fun state => PinBank.write_pin_congr h state device.activeLow
  cases action with
  | write state =>
    simp only [Action.perform, Motion.write, haccepts, true_and]
    exact hwrite state
  | toggle =>
    simp only [Action.perform, Motion.toggle, Motion.write, Motion.read, haccepts, hread, true_and]
    exact hwrite _
  | read =>
    simp only [Action.perform, Motion.read, hread, true_and]
    exact h

theorem perform_pin_of_ne (action : Action) (bank : PinBank) {device : Device} {handle : UInt32}
    (h : handle ≠ device.handle) :
    (action.perform bank device).bank.pin handle = bank.pin handle := by
  rcases perform_cases action bank device with hsame | ⟨state, hwrite, -⟩
  · rw [hsame]
  · rw [hwrite, PinBank.write_pin_of_ne bank h]

/-- Of two actions on different pins, either asks and answers after the other what it does before
it, and the bank ends up the same in either order. -/
theorem perform_comm {device beside : Device} (h : device.handle ≠ beside.handle)
    (action other : Action) (bank : PinBank) :
    other.perform (action.perform bank device).bank beside =
      { other.perform bank beside with
        bank := (action.perform (other.perform bank beside).bank device).bank } := by
  obtain ⟨hcalls, hanswer, hbeside⟩ := perform_congr (perform_pin_of_ne action bank h.symm) other
  obtain ⟨-, -, hdevice⟩ := perform_congr (perform_pin_of_ne other bank h) action
  have hbank : (other.perform (action.perform bank device).bank beside).bank =
      (action.perform (other.perform bank beside).bank device).bank := by
    apply PinBank.ext_pin
    intro handle
    by_cases hd : handle = device.handle
    · subst hd
      rw [perform_pin_of_ne other _ h, hdevice]
    · by_cases hb : handle = beside.handle
      · subst hb
        rw [perform_pin_of_ne action _ hd, hbeside]
      · rw [perform_pin_of_ne other _ hb, perform_pin_of_ne action _ hd,
          perform_pin_of_ne action _ hd, perform_pin_of_ne other _ hb]
  exact (Motion.mk.injEq ..).mpr ⟨hbank, hcalls, hanswer⟩

end Led

end Switchboard
