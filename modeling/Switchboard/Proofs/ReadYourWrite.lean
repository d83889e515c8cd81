import Switchboard.Proofs.Change
import Switchboard.Proofs.Pins

/-!
# Reading what was written

A write that a bank takes leaves its pin at the written state, inverted for a device whose pin is
active low. The pin stays there until the bank takes another write to it or it is driven from
outside, whatever else happens to machines, boards and other pins. So a later read gives back what
was written, inverted when the two devices differ in polarity. What matters is the bank and the
handle: the reading device may belong to another machine, and to a board that came later.
-/
namespace Switchboard

/-- What a step that ran an LED command to its end is told: a call gets a number. -/
def Request.told : Request → Bool → Reply
  | .led _, state => .flag state
  | _, state => .value (if state then 1 else 0)

theorem Request.told_injective (request : Request) : Function.Injective request.told := by
  intro one other h
  cases request with
  | led command => exact Reply.flag.inj h
  | _ => cases one <;> cases other <;> first | rfl | cases h

/-- A write to the pin that the bank took. -/
def Effect.writes (position : Nat) (handle : UInt32) : Effect → Bool
  | .pin bank (.write written _ _ accepted) => bank == position && written == handle && accepted
  | _ => false

/-- Sets the pin from outside. -/
def Request.drives (position : Nat) (handle : UInt32) : Request → Bool
  | .drive bank pin _ => bank == position && pin == handle
  | _ => false

namespace Rig

/-- The step runs this action, given or called, on the device of a machine that points at the bank
at `position`. -/
inductive Aims (rig : Rig) (step : Step) (action : Led.Action) (position : Nat)
    (device : Device) : Prop
  | intro {owner : Nat} {machine : Machine} {target : Led.Target}
      (hw : rig.ledWork? step = some (owner, ⟨action, target⟩))
      (hm : rig.machines[owner]? = some machine) (hp : machine.bank = some position)
      (hd : Led.locate machine.devices target = .ok device)

/-- The step drives the pin, or writes to it and the bank takes the write. -/
def disturbs (rig : Rig) (position : Nat) (handle : UInt32) (step : Step) : Bool :=
  step.request.drives position handle || (rig.step step).effects.any (·.writes position handle)

/-- No step of a run disturbs the pin. -/
def spares (rig : Rig) (position : Nat) (handle : UInt32) : List Step → Bool
  | [] => true
  | step :: rest =>
    !rig.disturbs position handle step && (rig.step step).rig.spares position handle rest

section Step

variable {rig : Rig} {step : Step} {action : Led.Action} {position : Nat} {device : Device}
  {bank : PinBank}

/-- A step that aims at a device asks the bank what its action asks, and tells the last answer. -/
theorem step_of_aims (h : rig.Aims step action position device)
    (hb : rig.banks[position]? = some bank) :
    let motion := action.perform bank device
    rig.step step = ⟨rig.putBank position motion.bank, step.request.told motion.answer,
      motion.calls.map (.pin position)⟩ := by
  intro motion
  obtain ⟨hw, hm, hp, hd⟩ := h
  have hled : rig.led _ ⟨action, _⟩ = rig.moved position motion := led_of_located hm hp hb hd
  rcases ledWork?_of_call hw with ⟨hreq, rfl⟩ | ⟨number, arguments, origin, operation, hc, hl, hcom⟩
  · obtain ⟨self, request⟩ := step
    cases hreq
    rw [step_of_machine hm]
    show rig.ledCommand self _ = _
    rw [ledCommand_eq, hled]
    simp [Turn.finish, moved, ledReply, Request.told]
  · have hstep : rig.step step = _ := step_of_led_call hc hl
    have htold : step.request.told motion.answer = .value (if motion.answer then 1 else 0) := by
      cases hreq : step.request with
      | led command =>
        rw [hreq] at hc
        cases hc
      | _ => rfl
    rw [hstep, hcom, hled, htold]
    simp [moved, ledValue, ledNotices]

/-- What a write is told is whether the bank took it. -/
theorem accepts_of_told {state : Bool} (h : rig.Aims step (.write state) position device)
    (hb : rig.banks[position]? = some bank)
    (hok : (rig.step step).answer = step.request.told true) :
    bank.accepts device.handle = true := by
  have htold : step.request.told (bank.accepts device.handle) = step.request.told true := by
    rw [← hok, step_of_aims h hb]
    rfl
  exact step.request.told_injective htold

/-- A write that is told to have come through sets the level. -/
theorem level_of_write {state : Bool} (h : rig.Aims step (.write state) position device)
    (hb : rig.banks[position]? = some bank) (hstuck : bank.behaviour ≠ .stuck)
    (hok : (rig.step step).answer = step.request.told true) :
    ∃ after, (rig.step step).rig.banks[position]? = some after ∧
      after.levels.get? device.handle = some (state != device.activeLow) := by
  have ha := accepts_of_told h hb hok
  have hlt := (List.getElem?_eq_some_iff.1 hb).1
  refine ⟨bank.drive device.handle (state != device.activeLow), ?_, ?_⟩
  · rw [step_of_aims h hb, putBank_banks, List.getElem?_set_self hlt]
    exact congrArg some (PinBank.write_of_accepted hstuck ha state device.activeLow)
  · rw [PinBank.drive_get?, if_pos rfl]

/-- Another bank in one place, and the same level at another pin or in another place. -/
theorem putBank_get? {put : PinBank} {place : Nat} {handle : UInt32}
    (hb : rig.banks[position]? = some bank)
    (hput : place = position → put.levels.get? handle = bank.levels.get? handle) :
    ∃ after, (rig.putBank place put).banks[position]? = some after ∧
      after.levels.get? handle = bank.levels.get? handle := by
  rw [putBank_banks]
  by_cases hplace : place = position
  · subst hplace
    have hlt := (List.getElem?_eq_some_iff.1 hb).1
    exact ⟨put, List.getElem?_set_self hlt, hput rfl⟩
  · exact ⟨bank, (List.getElem?_set_ne hplace).trans hb, rfl⟩

/-- An action that is not seen to write to a pin leaves its level. -/
theorem perform_get? {handle : UInt32}
    (h : ((action.perform bank device).calls.map (Effect.pin position)).any
      (·.writes position handle) = false) :
    (action.perform bank device).bank.levels.get? handle = bank.levels.get? handle := by
  rcases Led.perform_cases action bank device with hsame | ⟨state, hwrite, hmem⟩
  · rw [hsame]
  · rw [hwrite]
    by_cases hother : handle = device.handle
    · subst hother
      have hquiet := List.any_eq_false.1 h _ (List.mem_map_of_mem hmem)
      have hrefused : bank.accepts device.handle = false := by
        simpa [Effect.writes] using hquiet
      rw [PinBank.write_of_refused hrefused]
    · exact bank.write_get?_of_ne hother state device.activeLow

/-- A step that does not disturb a pin leaves its level, and its bank in place. -/
theorem level_of_spared {handle : UInt32} (hb : rig.banks[position]? = some bank)
    (h : rig.disturbs position handle step = false) :
    ∃ after, (rig.step step).rig.banks[position]? = some after ∧
      after.levels.get? handle = bank.levels.get? handle := by
  obtain ⟨hdriven, hquiet⟩ := Bool.or_eq_false_iff.1 h
  have hchange := rig.change_step step
  generalize hafter : (rig.step step).rig = left at hchange
  cases hchange with
  | nothing => exact ⟨bank, hb, rfl⟩
  | machine _ _ _ => exact ⟨bank, hb, rfl⟩
  | pointed _ _ => exact ⟨bank, hb, rfl⟩
  | counted _ _ _ => exact ⟨bank, hb, rfl⟩
  | @lit owner command hw =>
    rcases rig.led_cases owner command with
      ⟨_, -, hled⟩ | ⟨_, place, asked, _, hm, hp, ha, hd, hled⟩
    · rw [hled]
      exact ⟨bank, hb, rfl⟩
    · rw [hled]
      refine putBank_get? hb ?_
      rintro rfl
      obtain rfl : asked = bank := Option.some.inj (ha.symm.trans hb)
      rw [step_of_aims ⟨hw, hm, hp, hd⟩ hb] at hquiet
      exact perform_get? hquiet
  | @driven place found pin level hr hfound =>
    refine putBank_get? hb ?_
    rintro rfl
    obtain rfl : found = bank := Option.some.inj (hfound.symm.trans hb)
    have hpin : handle ≠ pin := by
      rintro rfl
      simp [hr, Request.drives] at hdriven
    rw [PinBank.drive_get?, if_neg hpin]

end Step

/-- A run that spares a pin spares it up to every point. -/
theorem spares_append {rig : Rig} {position : Nat} {handle : UInt32} {first rest : List Step}
    (h : rig.spares position handle (first ++ rest) = true) :
    rig.spares position handle first = true := by
  induction first generalizing rig with
  | nil => rfl
  | cons step first ih =>
    obtain ⟨hstep, hrest⟩ := Bool.and_eq_true_iff.1 h
    exact Bool.and_eq_true_iff.2 ⟨hstep, ih hrest⟩

/-- A run that spares a pin leaves its level. -/
theorem level_after {rig : Rig} {position : Nat} {handle : UInt32} {bank : PinBank}
    {steps : List Step} (hb : rig.banks[position]? = some bank)
    (h : rig.spares position handle steps = true) :
    ∃ last, (rig.after steps).banks[position]? = some last ∧
      last.levels.get? handle = bank.levels.get? handle := by
  induction steps generalizing rig bank with
  | nil => exact ⟨bank, hb, rfl⟩
  | cons step rest ih =>
    obtain ⟨hstep, hrest⟩ := Bool.and_eq_true_iff.1 h
    obtain ⟨after, hafter, hlevel⟩ := level_of_spared hb (Bool.not_eq_true' _ |>.mp hstep)
    obtain ⟨last, hlast, hkept⟩ := ih hafter hrest
    exact ⟨last, hlast, hkept.trans hlevel⟩

end Rig

/-- After a write came through, and for as long as its pin is neither written nor driven, the pin
is at the written state, inverted if the writing device is active low; and whoever reads it, through
any device with its handle, is told the written state, inverted if the two devices differ. -/
theorem read_your_write {start : Rig} {step : Step} {state : Bool} {position : Nat}
    {device : Device} {bank : PinBank} (hb : start.banks[position]? = some bank)
    (hstuck : bank.behaviour ≠ .stuck) (hwrite : start.Aims step (.write state) position device)
    (hok : (start.step step).answer = step.request.told true) {further : List Step}
    (hspared : (start.step step).rig.spares position device.handle further = true)
    {done : List Step} (hdone : done <+: further) :
    let now := (start.step step).rig.after done
    ∃ last, now.banks[position]? = some last ∧
      last.levels.get? device.handle = some (state != device.activeLow) ∧
      ∀ asked other, now.Aims asked .read position other → other.handle = device.handle →
        (now.step asked).answer =
          asked.request.told (if other.activeLow = device.activeLow then state else !state) := by
  intro now
  obtain ⟨rest, rfl⟩ := hdone
  obtain ⟨after, hafter, hlevel⟩ := Rig.level_of_write hwrite hb hstuck hok
  obtain ⟨last, hlast, hkept⟩ := Rig.level_after hafter (Rig.spares_append hspared)
  refine ⟨last, hlast, hkept.trans hlevel, ?_⟩
  intro asked other hread hsame
  have hseen : last.read other.handle other.activeLow =
      if other.activeLow = device.activeLow then state else !state := by
    rw [PinBank.read, PinBank.level, hsame, hkept, hlevel, Option.getD_some]
    cases state <;> cases other.activeLow <;> cases device.activeLow <;> rfl
  rw [Rig.step_of_aims hread hlast, ← hseen]
  rfl

/-- A runtime with an active-low LED at pin 10, and a machine of loose parts. -/
def writingRig : Rig :=
  Rig.after ⟨[{ platform := some 1 }, {}], [⟨.sized 16, .empty⟩, ⟨.sound, .empty⟩],
      some (.upTo .trace)⟩
    [⟨0, .registerStandard⟩, ⟨0, .setBank (some 0)⟩,
      ⟨0, .setBoard (some [1, 1, 1, 1, 10, 0, 0, 0])⟩]

/-- The runtime turns to the other bank and writes its pin 10, and forgets its handlers. The other
machine comes to the first bank with a board of its own, and writes pin 11. -/
def reconfiguring : List Step :=
  [⟨0, .setBank (some 1)⟩, ⟨0, .invoke .ledOff ⟨1, 1, 1⟩⟩, ⟨0, .clear⟩, ⟨0, .setBoard none⟩,
    ⟨1, .setBank (some 0)⟩, ⟨0, .drive 1 10 false⟩,
    ⟨1, .setBoard (some [1, 2, 0, 0, 11, 0, 0, 0, 1, 1, 0, 0, 10, 0, 0, 0])⟩,
    ⟨1, .led ⟨.write true, ⟨1, 2, 0⟩⟩⟩]

/-- Setting the light pulls pin 10 low, and an active-high LED at that pin is off. -/
theorem read_your_write_inverted :
    let set : Step := ⟨0, .invoke .ledSet ⟨1, 1, 0x1ffff⟩⟩
    let now := (writingRig.step set).rig.after reconfiguring
    (writingRig.step set).answer = .value 1 ∧
    (∃ last, now.banks[0]? = some last ∧ last.levels.get? 10 = some false) ∧
    (now.step ⟨1, .led ⟨.read, ⟨1, 1, 0⟩⟩⟩).answer = .flag false := by
  intro set now
  have hset : writingRig.Aims set (.write true) 0 ⟨⟨.led, .status, 1⟩, ⟨1⟩, 10⟩ :=
    ⟨rfl, rfl, rfl, rfl⟩
  have hok : (writingRig.step set).answer = .value 1 := by decide
  let reader : Machine :=
    { board := some [⟨⟨.led, .user, 0⟩, ⟨0⟩, 11⟩, ⟨⟨.led, .status, 0⟩, ⟨0⟩, 10⟩], bank := some 0 }
  have hreader : now.machines[1]? = some reader := by decide
  have hread : now.Aims ⟨1, .led ⟨.read, ⟨1, 1, 0⟩⟩⟩ .read 0 ⟨⟨.led, .status, 0⟩, ⟨0⟩, 10⟩ :=
    ⟨rfl, hreader, rfl, rfl⟩
  have hb : writingRig.banks[0]? = some ⟨.sized 16, .empty⟩ := rfl
  have hspared : (writingRig.step set).rig.spares 0 10 reconfiguring = true := by decide
  obtain ⟨last, hlast, hlevel, hanswers⟩ :=
    read_your_write hb (by decide) hset hok hspared (List.prefix_refl _)
  exact ⟨hok, ⟨last, hlast, hlevel⟩, hanswers _ _ hread rfl⟩

end Switchboard
