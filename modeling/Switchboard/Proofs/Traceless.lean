import Switchboard.Proofs.Pins
import Switchboard.Proofs.Turn

/-!
# Steps that leave no trace

Asking, failing and being refused change nothing that a later step can see. The sorts below
are told by what a step asks for and how it ends; that the rig stays as it was is the theorem
about them, and striking such a step from a session strikes its own report and no other.
-/
namespace Switchboard

/-- Requests that only look. -/
def Request.asks : Request → Bool
  | .lookup _ => true
  | .same _ _ _ => true
  | .count => true
  | .numbers => true
  | .describe => true
  | .platform => true
  | .find _ _ _ => true
  | .findDefault _ _ => true
  | .countDevices _ => true
  | .devices => true
  | .hasBoard => true
  | .levels _ => true
  | _ => false

/-- Standard handlers that only look, those for LEDs apart. -/
def Handler.asks : Handler → Bool
  | .led _ _ => false
  | .capability _ _ => true
  | .version => true
  | .platform _ => true
  | .custom _ => false

/-- What a step asks for, or how it ends, says that nothing is left of it. -/
inductive Traceless (rig : Rig) (step : Step) : Prop
  | asking (h : step.request.asks = true)
  /-- A call under a number without an entry. -/
  | uncalled {number : CallNumber} {arguments : Arguments}
      (hc : step.request.call? = some (number, arguments))
      (hl : rig.lookup step.machine number = none)
  /-- A call of a standard handler that only looks. -/
  | answered {number : CallNumber} {arguments : Arguments} {entry : Entry}
      (hc : step.request.call? = some (number, arguments))
      (hl : rig.lookup step.machine number = some entry) (h : entry.handler.asks = true)
  /-- An LED command, given or called, that only reads. -/
  | ledRead {owner : Nat} {command : Led.Command} (hw : rig.ledWork? step = some (owner, command))
      (h : command.action = .read)
  /-- An LED command, given or called, without a bank, of another kind or without a device. -/
  | ledFailed {owner : Nat} {command : Led.Command} {error : CallError}
      (hw : rig.ledWork? step = some (owner, command))
      (h : (rig.led owner command).answer = .error error)
  /-- An LED command, given or called, whose write the bank refuses. -/
  | writeRefused {owner : Nat} {command : Led.Command} {position : Nat} {handle : UInt32}
      {state activeLow : Bool} (hw : rig.ledWork? step = some (owner, command))
      (h : .pin position (.write handle state activeLow false) ∈ (rig.led owner command).effects)
  | nullHandler {number : CallNumber} (h : step.request = .register number none)
  | copyAbsent {number target : CallNumber} {source : Nat}
      (h : step.request = .copy number target source) (hl : rig.lookup source number = none)
  | unregisterAbsent {number : CallNumber} (h : step.request = .unregister number)
      (hl : rig.lookup step.machine number = none)
  | badImage {bytes : List UInt8} {error : ImageError} (h : step.request = .setBoard (some bytes))
      (hd : Board.decode bytes = .error error)

theorem SortedMap.erase_of_absent {m : Registry} {key : CallNumber} (h : m.get? key = none) :
    m.erase key = m := by
  apply SortedMap.ext_get?
  intro k
  rw [SortedMap.get?_erase]
  split
  · rename_i hk
    rw [hk, h]
  · rfl

/-- A refused write was the only one, and moved nothing. -/
theorem Led.perform_of_refused {action : Led.Action} {bank : PinBank} {device : Device}
    {handle : UInt32} {state activeLow : Bool}
    (h : .write handle state activeLow false ∈ (action.perform bank device).calls) :
    (action.perform bank device).bank = bank := by
  have hwrite : ∀ s, PinCall.write handle state activeLow false =
      .write device.handle s device.activeLow (bank.accepts device.handle) →
      bank.accepts device.handle = false := by
    intro s he
    exact ((PinCall.write.injEq ..).mp he).2.2.2.symm
  cases action with
  | write s =>
    have hr := hwrite s (List.mem_singleton.1 h)
    exact PinBank.write_of_refused hr s device.activeLow
  | toggle =>
    rcases List.mem_cons.1 h with he | he
    · cases he
    · have hr := hwrite _ (List.mem_singleton.1 he)
      exact PinBank.write_of_refused hr _ device.activeLow
  | read => rfl

namespace Rig

theorem led_of_error {rig : Rig} {owner : Nat} {command : Led.Command} {error : CallError}
    (h : (rig.led owner command).answer = .error error) : (rig.led owner command).rig = rig := by
  rcases rig.led_cases owner command with ⟨e, -, he⟩ | ⟨_, position, bank, device, -, -, -, -, he⟩
  · rw [he]
  · rw [he] at h
    cases h

theorem led_of_refused {rig : Rig} {owner position : Nat} {command : Led.Command} {handle : UInt32}
    {state activeLow : Bool}
    (h : .pin position (.write handle state activeLow false) ∈ (rig.led owner command).effects) :
    (rig.led owner command).rig = rig := by
  rcases rig.led_cases owner command with ⟨e, -, he⟩ | ⟨_, p, bank, device, -, -, hb, -, he⟩
  · rw [he]
  · rw [he] at h ⊢
    obtain ⟨call, hcall, hpin⟩ := List.mem_map.1 h
    cases hpin
    change rig.putBank _ (command.action.perform bank device).bank = rig
    rw [Led.perform_of_refused hcall]
    exact putBank_self hb

theorem led_of_read {rig : Rig} {owner : Nat} {command : Led.Command} (h : command.action = .read) :
    (rig.led owner command).rig = rig := by
  rcases rig.led_cases owner command with ⟨e, -, he⟩ | ⟨_, p, bank, device, -, -, hb, -, he⟩
  · rw [he]
  · rw [he, h]
    exact putBank_self hb

theorem dispatch_of_asks {rig : Rig} {entry : Entry} (h : entry.handler.asks = true)
    (number : CallNumber) (arguments : Arguments) :
    (rig.dispatch entry number arguments).rig = rig := by
  obtain ⟨origin, handler⟩ := entry
  cases handler with
  | led operation owner => cases h
  | custom routine => cases h
  | _ => rfl

theorem serve_of_asks (rig : Rig) (self : Nat) (machine : Machine) {request : Request}
    (h : request.asks = true) : (rig.serve self machine request).rig = rig := by
  cases request with
  | same number target source =>
    simp only [serve]
    split <;> rfl
  | platform =>
    simp only [serve]
    split <;> rfl
  | levels bank =>
    simp only [serve]
    split <;> rfl
  | lookup number => rfl
  | count => rfl
  | numbers => rfl
  | describe => rfl
  | find kind role index => rfl
  | findDefault kind role => rfl
  | countDevices kind => rfl
  | devices => rfl
  | hasBoard => rfl
  | _ => cases h

/-- A request to a machine that is not there, or one that puts back what was there. -/
theorem step_of_serve {rig : Rig} {self : Nat} {request : Request}
    (h : ∀ machine, rig.machines[self]? = some machine →
      (rig.serve self machine request).rig = rig) :
    (rig.step ⟨self, request⟩).rig = rig := by
  cases hm : rig.machines[self]? with
  | none =>
    rw [step_of_missing hm]
    rfl
  | some machine =>
    rw [step_of_machine hm]
    exact h machine hm

/-- A traceless step leaves every machine and every bank as it was. -/
theorem step_of_traceless {rig : Rig} {step : Step} (h : Traceless rig step) :
    (rig.step step).rig = rig := by
  obtain ⟨self, request⟩ := step
  cases h with
  | asking h => exact step_of_serve fun machine _ => rig.serve_of_asks self machine h
  | uncalled hc hl => rw [step_rig_of_call hc, tryInvoke_of_absent hl]
  | answered hc hl h =>
    rw [step_rig_of_call hc, tryInvoke_of_lookup hl, Turn.finish_rig, dispatch_of_asks h]
  | ledRead hw h => rw [step_rig_of_ledWork hw, led_of_read h]
  | ledFailed hw h => rw [step_rig_of_ledWork hw, led_of_error h]
  | writeRefused hw h => rw [step_rig_of_ledWork hw, led_of_refused h]
  | nullHandler h =>
    cases h
    exact step_of_serve fun _ _ => rfl
  | copyAbsent h hl =>
    cases h
    refine step_of_serve fun machine _ => ?_
    simp only [serve, copy, hl]
    split <;> rfl
  | unregisterAbsent h hl =>
    cases h
    refine step_of_serve fun machine hm => ?_
    rw [lookup_of_machine hm] at hl
    change rig.putMachine self (machine.unregister _) = rig
    rw [Machine.unregister, SortedMap.erase_of_absent hl]
    exact putMachine_self hm
  | badImage h hd =>
    cases h
    refine step_of_serve fun machine _ => ?_
    simp only [serve, setBoard, Machine.setBoard, hd]
    rfl

end Rig

/-- Striking a traceless step strikes its report and leaves every other one as it was: replies,
counts, calls to banks and what is written under the session's filter, whichever it is. -/
theorem strike_traceless_step (session : Session) (before rest : List Step) (step : Step)
    (hsteps : session.steps = before ++ step :: rest)
    (htraceless : ∀ rig, session.rig = .ok rig → Traceless (rig.after before) step) :
    { session with steps := before ++ rest }.run =
      session.run.map fun reports => reports.eraseIdx before.length := by
  have hrig : { session with steps := before ++ rest }.rig = session.rig := rfl
  unfold Session.run
  rw [hrig, hsteps]
  cases h : session.rig with
  | error error => rfl
  | ok rig =>
    have hsame := Rig.step_of_traceless (htraceless rig h)
    change Except.ok (rig.run (before ++ rest)) =
      Except.ok ((rig.run (before ++ step :: rest)).eraseIdx before.length)
    rw [Rig.run_append, Rig.run_append, Rig.run, hsame]
    rw [← Rig.length_run rig before, List.eraseIdx_append_of_length_le (Nat.le_refl _),
      Nat.sub_self, List.eraseIdx_cons_zero]

/-- A light at handle 10 on a bank of ten pins, asked to go on and then looked at. -/
def refusingSession : Session where
  filter := some (.upTo .trace)
  banks := [.sized 10]
  machines := [.runtime 7]
  steps := [⟨0, .registerStandard⟩, ⟨0, .setBank (some 0)⟩,
    ⟨0, .setBoard (some [1, 2, 1, 0, 10, 0, 0, 0])⟩] ++
    ⟨0, .invoke .ledOn ⟨1, 2, 1⟩⟩ :: [⟨0, .invoke .ledGet ⟨1, 2, 1⟩⟩, ⟨0, .levels 0⟩]

/-- The fourth step asks the bank, is refused, and can be struck. -/
theorem strike_refused_write :
    (∃ reports, refusingSession.run = .ok reports ∧
      reports[3]?.map Report.calls = some [(0, .write 10 true false false)]) ∧
    { refusingSession with steps := refusingSession.steps.eraseIdx 3 }.run =
      refusingSession.run.map fun reports => reports.eraseIdx 3 := by
  refine ⟨⟨_, rfl, by decide⟩, ?_⟩
  refine strike_traceless_step refusingSession _ _ _ rfl ?_
  intro rig hrig
  cases hrig
  exact .writeRefused rfl (List.mem_singleton.2 rfl)

end Switchboard
