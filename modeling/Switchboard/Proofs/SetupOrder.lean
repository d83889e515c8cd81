import Switchboard.Proofs.Provenance
import Switchboard.Proofs.Split

/-!
# The order of setting up

A board, a bank and the registry of a machine are set up independently: the registry steps may
come before or after the others, and of the others only the last board and the last bank count.
Registering does not read the board or the bank, and what is set replaces what was set before
without a trace.
-/
namespace Switchboard

namespace Request

/-- Requests that concern the registry and name no other machine. -/
def registers : Request → Bool
  | .registerStandard => true
  | .register _ _ => true
  | .registerRoutine _ _ => true
  | .unregister _ => true
  | .clear => true
  | _ => false

/-- Requests that set a machine up, if there are `banks` banks: a board from a good image or none,
a bank that is there or none, and what concerns the registry. -/
def setsUp (banks : Nat) : Request → Bool
  | .setBoard none => true
  | .setBoard (some image) => (Board.decode image).isOk
  | .setBank bank => bank.all (· < banks)
  | request => request.registers

/-- The image that a request gives for a board. -/
def image? : Request → Option (Option (List UInt8))
  | .setBoard image => some image
  | _ => none

/-- The bank that a request points its machine at. -/
def bank? : Request → Option (Option Nat)
  | .setBank bank => some bank
  | _ => none

theorem setsUp_cases {banks : Nat} {request : Request} (h : request.setsUp banks = true) :
    request.registers = true ∨ (∃ image, request = .setBoard image) ∨
      ∃ bank, request = .setBank bank := by
  cases request with
  | setBoard image => exact Or.inr (Or.inl ⟨image, rfl⟩)
  | setBank bank => exact Or.inr (Or.inr ⟨bank, rfl⟩)
  | _ => exact Or.inl h

theorem sets_nothing {request : Request} (h : request.registers = true) :
    request.image? = none ∧ request.bank? = none := by
  cases request with
  | setBoard image => cases h
  | setBank bank => cases h
  | _ => exact ⟨rfl, rfl⟩

end Request

/-- The board that an image stands for. -/
def Board.ofImage? (image : Option (List UInt8)) : Option Board :=
  image.bind fun bytes => (Board.decode bytes).toOption

/-- The image that was given last. -/
def lastImage? (steps : List Step) : Option (Option (List UInt8)) :=
  (steps.filterMap (·.request.image?)).getLast?

/-- The bank that was set last. -/
def lastBank? (steps : List Step) : Option (Option Nat) :=
  (steps.filterMap (·.request.bank?)).getLast?

theorem lastImage?_snoc (steps : List Step) (step : Step) :
    lastImage? (steps ++ [step]) = step.request.image?.or (lastImage? steps) := by
  unfold lastImage?
  rw [List.filterMap_append]
  cases h : step.request.image? with
  | none => simp [h]
  | some image => simp [h]

theorem lastBank?_snoc (steps : List Step) (step : Step) :
    lastBank? (steps ++ [step]) = step.request.bank?.or (lastBank? steps) := by
  unfold lastBank?
  rw [List.filterMap_append]
  cases h : step.request.bank? with
  | none => simp [h]
  | some bank => simp [h]

namespace Machine

/-- The machine with another board and another bank. -/
def wired (machine : Machine) (board : Option Board) (bank : Option Nat) : Machine :=
  { machine with board := board, bank := bank }

/-- An installation goes its way whatever board and bank the machine has. -/
theorem installAll_wired (machine : Machine) (self : Nat) (board : Option Board)
    (bank : Option Nat) (handlers : List (CallNumber × Handler)) :
    ((machine.wired board bank).installAll self handlers).1 =
      (machine.installAll self handlers).1.wired board bank := by
  rw [installAll_eq, installAll_eq]
  rfl

end Machine

namespace Rig

theorem putMachine_putMachine (rig : Rig) (position : Nat) (first second : Machine) :
    (rig.putMachine position first).putMachine position second =
      rig.putMachine position second := by
  simp only [putMachine, List.set_set]

section Rewire

variable {rig : Rig} {self : Nat} {found : Machine} (board : Option Board) (bank : Option Nat)

theorem rewire_of_machine (h : rig.machines[self]? = some found) :
    rig.rewire self board bank = rig.putMachine self (found.wired board bank) := by
  simp only [rewire, putMachine, List.modify_eq_set_getElem?, h]
  rfl

theorem rewire_of_missing (h : rig.machines[self]? = none) : rig.rewire self board bank = rig := by
  simp only [rewire, List.modify_eq_set_getElem?, h]
  rfl

theorem rewire_self (rig : Rig) (self : Nat) :
    rig.rewire self ((rig.machines[self]?).bind (·.board)) ((rig.machines[self]?).bind (·.bank)) =
      rig := by
  cases h : rig.machines[self]? with
  | none => exact rewire_of_missing _ _ h
  | some found =>
    rw [rewire_of_machine _ _ h]
    exact putMachine_self h

/-- Replacing a machine by a rewired one is rewiring what it is replaced by. -/
theorem rewire_putMachine (h : rig.machines[self]? = some found) (machine : Machine) :
    (rig.putMachine self machine).rewire self board bank =
      rig.putMachine self (machine.wired board bank) := by
  rw [rewire_of_machine _ _ (putMachine_get h machine), putMachine_putMachine]

end Rewire

section Setup

variable {rig : Rig} {self : Nat} (board : Option Board) (bank : Option Nat)

/-- A registry step does the same to a machine with another board and another bank. -/
theorem step_registers_rewire (rig : Rig) (self : Nat) {request : Request}
    (h : request.registers = true) :
    ((rig.rewire self board bank).step ⟨self, request⟩).rig =
      (rig.step ⟨self, request⟩).rig.rewire self board bank := by
  cases hm : rig.machines[self]? with
  | none =>
    rw [rewire_of_missing _ _ hm, step_of_missing hm]
    exact (rewire_of_missing _ _ hm).symm
  | some found =>
    have hupdate : ∀ change : Machine,
        (rig.putMachine self (found.wired board bank)).putMachine self (change.wired board bank) =
          (rig.putMachine self change).rewire self board bank := by
      intro change
      rw [rewire_putMachine _ _ hm, putMachine_putMachine]
    rw [rewire_of_machine _ _ hm, step_of_machine hm, step_of_machine (putMachine_get hm _)]
    cases request with
    | registerStandard =>
      have hplatform : (found.wired board bank).platform = found.platform := rfl
      cases hp : found.platform with
      | none =>
        simp only [serve, hplatform, hp]
        exact (rewire_of_machine _ _ hm).symm
      | some platform =>
        simp only [serve, hplatform, hp, update, Machine.registerStandard_eq,
          Machine.installAll_wired]
        exact hupdate _
    | register number routine =>
      cases routine with
      | none => exact (rewire_of_machine _ _ hm).symm
      | some routine => exact hupdate (found.install self number (.custom routine))
    | registerRoutine number routine => exact hupdate (found.install self number (.custom routine))
    | unregister number => exact hupdate (found.unregister number)
    | clear => exact hupdate found.clear
    | _ => cases h

theorem step_setBoard_rewire (rig : Rig) (self : Nat) {image : Option (List UInt8)}
    (h : Request.setsUp rig.banks.length (.setBoard image) = true) :
    ((rig.rewire self board bank).step ⟨self, .setBoard image⟩).rig =
      rig.rewire self (Board.ofImage? image) bank := by
  cases hm : rig.machines[self]? with
  | none => rw [rewire_of_missing _ _ hm, rewire_of_missing _ _ hm, step_of_missing hm]; rfl
  | some found =>
    rw [rewire_of_machine _ _ hm, rewire_of_machine _ _ hm, step_of_machine (putMachine_get hm _)]
    cases image with
    | none => exact putMachine_putMachine _ _ _ _
    | some bytes =>
      cases hd : Board.decode bytes with
      | error error =>
        simp only [Request.setsUp, hd] at h
        cases h
      | ok decoded =>
        have hset : (found.wired board bank).setBoard (some bytes) =
            .ok (found.wired (some decoded) bank, .boardInstalled) := by
          rw [Machine.setBoard, hd]
          rfl
        have himage : Board.ofImage? (some bytes) = some decoded := by
          rw [Board.ofImage?, Option.bind_some, hd]
          rfl
        simp only [serve, setBoard, hset, himage]
        exact putMachine_putMachine _ _ _ _

theorem step_setBank_rewire (rig : Rig) (self : Nat) {position : Option Nat}
    (h : Request.setsUp rig.banks.length (.setBank position) = true) :
    ((rig.rewire self board bank).step ⟨self, .setBank position⟩).rig =
      rig.rewire self board position := by
  cases hm : rig.machines[self]? with
  | none => rw [rewire_of_missing _ _ hm, rewire_of_missing _ _ hm, step_of_missing hm]; rfl
  | some found =>
    have hbanks : position.all
        (· < (rig.putMachine self (found.wired board bank)).banks.length) = true := h
    rw [rewire_of_machine _ _ hm, rewire_of_machine _ _ hm, step_of_machine (putMachine_get hm _)]
    simp only [serve, if_pos hbanks]
    exact putMachine_putMachine _ _ _ _

end Setup

/-- The board that a machine has after it was set up. -/
def boardAfter (rig : Rig) (self : Nat) (steps : List Step) : Option Board :=
  match lastImage? steps with
  | some image => Board.ofImage? image
  | none => (rig.machines[self]?).bind (·.board)

/-- The bank that a machine points at after it was set up. -/
def bankAfter (rig : Rig) (self : Nat) (steps : List Step) : Option Nat :=
  match lastBank? steps with
  | some bank => bank
  | none => (rig.machines[self]?).bind (·.bank)

/-- Setting a machine up is carrying out the registry steps alone and wiring the machine once, to
the last board and the last bank. -/
theorem after_setup (rig : Rig) (self : Nat) {steps : List Step}
    (h : ∀ step ∈ steps,
      step.machine = self ∧ step.request.setsUp rig.banks.length = true) :
    rig.after steps = (rig.after (steps.filter (·.request.registers))).rewire self
      (rig.boardAfter self steps) (rig.bankAfter self steps) := by
  induction steps using List.reverseRecOn with
  | nil => exact (rewire_self rig self).symm
  | append_singleton steps step ih =>
    have hstep := h step (List.mem_append_right _ (List.mem_singleton.2 rfl))
    have hsteps := ih fun other ho => h other (List.mem_append_left _ ho)
    obtain ⟨machine, request⟩ := step
    obtain ⟨rfl, hup⟩ := hstep
    rw [after_snoc, hsteps, List.filter_append]
    have hbanks := (rig.after_lengths (steps.filter (·.request.registers))).2
    rw [← hbanks] at hup
    simp only [boardAfter, bankAfter, lastImage?_snoc, lastBank?_snoc]
    rcases Request.setsUp_cases hup with hr | ⟨image, rfl⟩ | ⟨position, rfl⟩
    · obtain ⟨himage, hbank⟩ := Request.sets_nothing hr
      have hfiled : List.filter (·.request.registers) [Step.mk machine request] =
          [⟨machine, request⟩] := by
        rw [List.filter_cons, if_pos hr, List.filter_nil]
      rw [hfiled, after_snoc, step_registers_rewire _ _ _ _ hr, himage, hbank]
      rfl
    · have hfiled : List.filter (·.request.registers) [Step.mk machine (.setBoard image)] = [] :=
        rfl
      rw [hfiled, List.append_nil]
      exact step_setBoard_rewire _ _ _ _ hup
    · have hfiled : List.filter (·.request.registers) [Step.mk machine (.setBank position)] = [] :=
        rfl
      rw [hfiled, List.append_nil]
      exact step_setBank_rewire _ _ _ _ hup

end Rig

/-- What setting up leaves is told by the registry steps in their order, the last board and the
last bank: two sequences that agree on these cannot be told apart afterwards. They may mix the
three kinds of steps as they like, and one may set boards and banks that the other never had. -/
theorem setup_order {rig : Rig} {self : Nat} {first second : List Step}
    (hfirst : ∀ step ∈ first, step.machine = self ∧ step.request.setsUp rig.banks.length = true)
    (hsecond : ∀ step ∈ second, step.machine = self ∧ step.request.setsUp rig.banks.length = true)
    (hregistry : first.filter (·.request.registers) = second.filter (·.request.registers))
    (himage : lastImage? first = lastImage? second) (hbank : lastBank? first = lastBank? second)
    (further : List Step) : (rig.after first).run further = (rig.after second).run further := by
  rw [rig.after_setup self hfirst, rig.after_setup self hsecond, hregistry, Rig.boardAfter,
    Rig.boardAfter, Rig.bankAfter, Rig.bankAfter, himage, hbank]

/-- A runtime and two banks. -/
def twoBanks : Rig :=
  ⟨[{ platform := some 7 }], [⟨.sound, .empty⟩, ⟨.sized 4, .empty⟩], some (.upTo .trace)⟩

/-- Handlers come first, the board and the bank that stay come last. -/
def handlersFirst : List Step :=
  [⟨0, .registerStandard⟩, ⟨0, .setBoard (some [1, 2, 1, 0, 3, 0, 0, 0])⟩, ⟨0, .setBank (some 1)⟩,
    ⟨0, .register 7 (some .counter)⟩, ⟨0, .setBank none⟩, ⟨0, .unregister .ledOff⟩,
    ⟨0, .setBoard (some [1, 2, 1, 1, 10, 0, 0, 0])⟩, ⟨0, .setBank (some 0)⟩]

/-- The same steps, with the handlers last. -/
def handlersLast : List Step :=
  [⟨0, .setBank none⟩, ⟨0, .setBoard (some [1, 2, 1, 0, 3, 0, 0, 0])⟩, ⟨0, .setBank (some 1)⟩,
    ⟨0, .setBank (some 0)⟩, ⟨0, .setBoard (some [1, 2, 1, 1, 10, 0, 0, 0])⟩,
    ⟨0, .registerStandard⟩, ⟨0, .register 7 (some .counter)⟩, ⟨0, .unregister .ledOff⟩]

/-- The light of the last board goes on at the last bank in either order. -/
theorem setup_order_handlers :
    let further : List Step := [⟨0, .invoke .ledOn ⟨1, 2, 1⟩⟩, ⟨0, .numbers⟩, ⟨0, .levels 0⟩]
    handlersFirst.Perm handlersLast ∧
    (twoBanks.after handlersFirst).run further = (twoBanks.after handlersLast).run further ∧
    ((twoBanks.after handlersLast).run further)[0]? =
      some ⟨.value 1, 11, [.pin 0 (.write 10 true true true)]⟩ := by
  have hfirst : ∀ step ∈ handlersFirst,
      step.machine = 0 ∧ step.request.setsUp twoBanks.banks.length = true := by decide
  have hlast : ∀ step ∈ handlersLast,
      step.machine = 0 ∧ step.request.setsUp twoBanks.banks.length = true := by decide
  have hregistry : handlersFirst.filter (·.request.registers) =
      handlersLast.filter (·.request.registers) := by decide
  refine ⟨by decide, ?_, by decide⟩
  exact setup_order hfirst hlast hregistry (by decide) (by decide) _

end Switchboard
