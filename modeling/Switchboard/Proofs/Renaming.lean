import Mathlib.Logic.Function.Basic
import Switchboard.Proofs.Counting

/-!
# Origins are only names

Origins tell entries apart, and a counter finds its count by its origin. Apart from that they are
names: two rigs in which the installations have other serial numbers, with equal handlers under all
call numbers and equal counts behind the counters, tell the same of every step except of a
comparison of two entries, and ask the same of the banks. Installations to come must be named alike,
so that counters that are installed later start alike.
-/
namespace Switchboard

namespace SortedMap

variable {κ α : Type} [LE κ] [LT κ] [Std.IsLinearOrder κ] [Std.LawfulOrderLT κ] [DecidableEq κ]

omit [Std.IsLinearOrder κ] [DecidableEq κ] in
theorem nodup_keys (m : SortedMap κ α) : m.keys.Nodup :=
  m.ascending_keys.imp fun {a b} hlt (heq : a = b) => Std.lt_irrefl (heq ▸ hlt)

/-- The keys are determined by which keys there are. -/
theorem keys_eq_of_isSome {β : Type} {m : SortedMap κ α} {n : SortedMap κ β}
    (h : ∀ key, (m.get? key).isSome = (n.get? key).isSome) : m.keys = n.keys := by
  have hperm : m.keys.Perm n.keys := by
    rw [List.perm_ext_iff_of_nodup m.nodup_keys n.nodup_keys]
    intro key
    rw [mem_keys, mem_keys, h key]
  exact hperm.eq_of_pairwise (fun _ _ _ _ hlt hgt => absurd (Std.lt_trans hlt hgt) Std.lt_irrefl)
    m.ascending_keys n.ascending_keys

end SortedMap

/-- Whether a request asks if two entries are one. -/
def Request.compares : Request → Bool
  | .same _ _ _ => true
  | _ => false

/-- Reports of the same steps in two rigs that agree, except in what comparisons are told. -/
structure AgreeApart (steps : List Step) (reports others : List Report) : Prop where
  effects : others.map Report.effects = reports.map Report.effects
  report : ∀ (i : Nat) (step : Step), steps[i]? = some step → step.request.compares = false →
    others[i]? = reports[i]?

theorem AgreeApart.refl (steps : List Step) (reports : List Report) :
    AgreeApart steps reports reports := ⟨rfl, fun _ _ _ _ => rfl⟩

theorem AgreeApart.trans {steps : List Step} {reports others more : List Report}
    (h : AgreeApart steps reports others) (hmore : AgreeApart steps others more) :
    AgreeApart steps reports more :=
  ⟨hmore.effects.trans h.effects, fun i step hstep hcompare =>
    (hmore.report i step hstep hcompare).trans (h.report i step hstep hcompare)⟩

/-- Other serial numbers for the installations of each machine, none of them given twice. -/
structure Renaming where
  serial : Nat → Nat → Nat
  injective : ∀ machine, Function.Injective (serial machine)

namespace Renaming

def origin (names : Renaming) (origin : Origin) : Origin :=
  ⟨origin.machine, names.serial origin.machine origin.serial⟩

/-- Entries with equal handlers. Only of a counter the origin counts. -/
structure SameEntry (names : Renaming) (entry its : Entry) : Prop where
  handler : its.handler = entry.handler
  origin : entry.handler = .custom .counter → its.origin = names.origin entry.origin

/-- Machines that are equal but for the names of their installations. -/
structure SameMachine (names : Renaming) (position : Nat) (machine its : Machine) : Prop where
  platform : its.platform = machine.platform
  board : its.board = machine.board
  bank : its.bank = machine.bank
  entries : ∀ number, Option.Rel names.SameEntry (machine.registry.get? number)
    (its.registry.get? number)
  /-- Installations to come are named alike. -/
  issued : ∀ n, names.serial position (machine.issued + n) = its.issued + n
  runs : ∀ serial, its.runs (names.serial position serial) = machine.runs serial

structure SameRig (names : Renaming) (rig its : Rig) : Prop where
  banks : its.banks = rig.banks
  filter : its.filter = rig.filter
  machines : ∀ i, Option.Rel (names.SameMachine i) rig.machines[i]? its.machines[i]?

structure SameTurn (names : Renaming) {α : Type} (turn its : Turn α) : Prop where
  answer : its.answer = turn.answer
  effects : its.effects = turn.effects
  rig : names.SameRig turn.rig its.rig

variable {names : Renaming} {self : Nat} {machine its : Machine} {rig other : Rig}

theorem isSome_eq_of_rel {α β : Type} {related : α → β → Prop} {one : Option α} {other : Option β}
    (h : Option.Rel related one other) : other.isSome = one.isSome := by
  cases h <;> rfl

namespace SameMachine

theorem contains (h : names.SameMachine self machine its) (number : CallNumber) :
    its.registry.contains number = machine.registry.contains number := by
  rw [SortedMap.contains, SortedMap.contains, isSome_eq_of_rel (h.entries number)]

theorem keys (h : names.SameMachine self machine its) :
    its.registry.keys = machine.registry.keys :=
  SortedMap.keys_eq_of_isSome h.contains

theorem size (h : names.SameMachine self machine its) :
    its.registry.size = machine.registry.size := by
  have hlength := congrArg List.length h.keys
  rwa [SortedMap.length_keys, SortedMap.length_keys] at hlength

theorem debugText (h : names.SameMachine self machine its) :
    its.registry.debugText = machine.registry.debugText := by
  have hkeys := h.keys
  unfold Registry.debugText
  rw [hkeys]

theorem notice (h : names.SameMachine self machine its) (number : CallNumber) :
    its.registry.notice number = machine.registry.notice number := by
  rw [Registry.notice, Registry.notice, h.contains]

theorem devices (h : names.SameMachine self machine its) : its.devices = machine.devices := by
  rw [Machine.devices, Machine.devices, h.board]

theorem place (h : names.SameMachine self machine its) (number : CallNumber) {entry its' : Entry}
    (hentry : names.SameEntry entry its') :
    names.SameMachine self (machine.place number entry) (its.place number its') := by
  refine ⟨h.platform, h.board, h.bank, fun other => ?_, h.issued, h.runs⟩
  rw [Machine.place, Machine.place, SortedMap.get?_insert, SortedMap.get?_insert]
  split
  · exact .some hentry
  · exact h.entries other

theorem install (h : names.SameMachine self machine its) (number : CallNumber)
    (handler : Handler) :
    names.SameMachine self (machine.install self number handler)
      (its.install self number handler) := by
  have hentry : names.SameEntry ⟨⟨self, machine.issued⟩, handler⟩
      ⟨⟨self, its.issued⟩, handler⟩ :=
    ⟨rfl, fun _ => congrArg (Origin.mk self) (h.issued 0).symm⟩
  have hplaced := h.place number hentry
  refine ⟨h.platform, h.board, h.bank, hplaced.entries, fun n => ?_, h.runs⟩
  have hnext := h.issued (n + 1)
  rw [← Nat.add_assoc, Nat.add_right_comm] at hnext
  rw [Machine.install, Machine.install]
  simp only
  omega

theorem installAll (h : names.SameMachine self machine its)
    (handlers : List (CallNumber × Handler)) :
    names.SameMachine self (machine.installAll self handlers).1
        (its.installAll self handlers).1 ∧
      (its.installAll self handlers).2 = (machine.installAll self handlers).2 := by
  induction handlers generalizing machine its with
  | nil => exact ⟨h, rfl⟩
  | cons item rest ih =>
    obtain ⟨number, handler⟩ := item
    obtain ⟨hrest, hnotices⟩ := ih (h.install number handler)
    exact ⟨hrest, congrArg₂ List.cons (h.notice number) hnotices⟩

theorem registerLed (h : names.SameMachine self machine its) (source : Nat) :
    names.SameMachine self (machine.registerLed self source).1
        (its.registerLed self source).1 ∧
      (its.registerLed self source).2 = (machine.registerLed self source).2 := by
  obtain ⟨hsame, hnotices⟩ := h.installAll (Handler.ledSet source)
  exact ⟨hsame, congrArg (List.cons _) hnotices⟩

theorem registerCapability (h : names.SameMachine self machine its) (source : Nat)
    (platform : Int32) :
    names.SameMachine self (machine.registerCapability self source platform).1
        (its.registerCapability self source platform).1 ∧
      (its.registerCapability self source platform).2 =
        (machine.registerCapability self source platform).2 := by
  obtain ⟨hsame, hnotices⟩ := h.installAll (Handler.capabilitySet source platform)
  exact ⟨hsame, congrArg (List.cons _) hnotices⟩

theorem registerStandard (h : names.SameMachine self machine its) (platform : Int32) :
    names.SameMachine self (machine.registerStandard self platform).1
        (its.registerStandard self platform).1 ∧
      (its.registerStandard self platform).2 = (machine.registerStandard self platform).2 := by
  obtain ⟨hled, hfirst⟩ := h.registerLed self
  obtain ⟨hall, hsecond⟩ := hled.registerCapability self platform
  exact ⟨hall, congrArg₂ (· ++ ·) hfirst hsecond⟩

theorem unregister (h : names.SameMachine self machine its) (number : CallNumber) :
    names.SameMachine self (machine.unregister number) (its.unregister number) := by
  refine ⟨h.platform, h.board, h.bank, fun other => ?_, h.issued, h.runs⟩
  rw [Machine.unregister, Machine.unregister, SortedMap.get?_erase, SortedMap.get?_erase]
  split
  · exact .none
  · exact h.entries other

theorem clear (h : names.SameMachine self machine its) :
    names.SameMachine self machine.clear its.clear :=
  ⟨h.platform, h.board, h.bank, fun _ => .none, h.issued, h.runs⟩

theorem withBoard (h : names.SameMachine self machine its) (board : Option Board) :
    names.SameMachine self { machine with board := board } { its with board := board } :=
  ⟨h.platform, rfl, h.bank, h.entries, h.issued, h.runs⟩

theorem withBank (h : names.SameMachine self machine its) (bank : Option Nat) :
    names.SameMachine self { machine with bank := bank } { its with bank := bank } :=
  ⟨h.platform, h.board, rfl, h.entries, h.issued, h.runs⟩

/-- A run is counted under the names of one counter, and other counters keep their counts. -/
theorem tally (h : names.SameMachine self machine its) (serial : Nat) :
    names.SameMachine self (machine.tally serial) (its.tally (names.serial self serial)) := by
  refine ⟨h.platform, h.board, h.bank, h.entries, h.issued, fun other => ?_⟩
  rw [Machine.runs_tally, Machine.runs_tally, h.runs, h.runs]
  exact if_congr (names.injective self).eq_iff rfl rfl

end SameMachine

namespace SameRig

theorem exists_machine (h : names.SameRig rig other) {i : Nat}
    (hm : rig.machines[i]? = some machine) :
    ∃ its, other.machines[i]? = some its ∧ names.SameMachine i machine its := by
  have hsame := h.machines i
  rw [hm] at hsame
  cases hits : other.machines[i]? with
  | none =>
    rw [hits] at hsame
    cases hsame
  | some its =>
    rw [hits] at hsame
    cases hsame with
    | some hsame => exact ⟨its, rfl, hsame⟩

theorem missing (h : names.SameRig rig other) {i : Nat} (hm : rig.machines[i]? = none) :
    other.machines[i]? = none := by
  have hsame := h.machines i
  rw [hm] at hsame
  cases hits : other.machines[i]? with
  | none => rfl
  | some its =>
    rw [hits] at hsame
    cases hsame

theorem length (h : names.SameRig rig other) : other.machines.length = rig.machines.length := by
  refine Nat.le_antisymm ?_ ?_
  · exact List.getElem?_eq_none_iff.1 (h.missing (List.getElem?_eq_none (Nat.le_refl _)))
  · refine Nat.not_lt.1 fun hlt => ?_
    obtain ⟨its, hits, -⟩ := h.exists_machine (List.getElem?_eq_getElem hlt)
    exact Nat.lt_irrefl _ (List.getElem?_eq_some_iff.1 hits).1

theorem lookup_cases (h : names.SameRig rig other) (i : Nat) (number : CallNumber) :
    (rig.lookup i number = none ∧ other.lookup i number = none) ∨
    ∃ entry its, rig.lookup i number = some entry ∧ other.lookup i number = some its ∧
      names.SameEntry entry its := by
  cases hm : rig.machines[i]? with
  | none => exact .inl ⟨by rw [Rig.lookup_eq, hm]; rfl, by rw [Rig.lookup_eq, h.missing hm]; rfl⟩
  | some machine =>
    obtain ⟨its, hits, hsame⟩ := h.exists_machine hm
    rw [Rig.lookup_of_machine hm, Rig.lookup_of_machine hits]
    generalize machine.registry.get? number = one, its.registry.get? number = another,
      hsame.entries number = hentries
    cases hentries with
    | none => exact .inl ⟨rfl, rfl⟩
    | some hentry => exact .inr ⟨_, _, rfl, rfl, hentry⟩

theorem devices (h : names.SameRig rig other) (i : Nat) : other.devices i = rig.devices i := by
  cases hm : rig.machines[i]? with
  | none => simp only [Rig.devices, hm, h.missing hm]
  | some machine =>
    obtain ⟨its, hits, hsame⟩ := h.exists_machine hm
    simp only [Rig.devices, hm, hits, hsame.devices]

theorem registered (h : names.SameRig rig other) (i : Nat) :
    other.registered i = rig.registered i := by
  cases hm : rig.machines[i]? with
  | none => simp only [Rig.registered, hm, h.missing hm]
  | some machine =>
    obtain ⟨its, hits, hsame⟩ := h.exists_machine hm
    simp only [Rig.registered, hm, hits, hsame.size]

theorem putMachine (h : names.SameRig rig other) {i : Nat}
    (hsame : names.SameMachine i machine its) :
    names.SameRig (rig.putMachine i machine) (other.putMachine i its) := by
  refine ⟨h.banks, h.filter, fun j => ?_⟩
  rw [Rig.putMachine_machines, Rig.putMachine_machines, List.getElem?_set, List.getElem?_set,
    h.length]
  split
  · rename_i hj
    subst hj
    split
    · exact .some hsame
    · exact .none
  · exact h.machines j

theorem putBank (h : names.SameRig rig other) (position : Nat) (bank : PinBank) :
    names.SameRig (rig.putBank position bank) (other.putBank position bank) := by
  refine ⟨?_, h.filter, h.machines⟩
  rw [Rig.putBank_banks, Rig.putBank_banks, h.banks]

end SameRig

theorem SameTurn.finish {α β : Type} {turn its : Turn α} (h : names.SameTurn turn its)
    (form : α → β) (noted : α → List Notice) :
    names.SameTurn (turn.finish form noted) (its.finish form noted) := by
  refine ⟨?_, ?_, h.rig⟩
  · rw [Turn.finish, Turn.finish, h.answer]
  · show its.effects ++ _ = turn.effects ++ _
    rw [h.answer, h.effects, Rig.write_congr h.rig.filter]

namespace SameRig

theorem tell (h : names.SameRig rig other) (reply : Reply) :
    names.SameTurn (rig.tell reply) (other.tell reply) := ⟨rfl, rfl, h⟩

theorem update (h : names.SameRig rig other) {noted noted' : List Notice}
    (hsame : names.SameMachine self machine its) (hnoted : noted' = noted) (reply : Reply) :
    names.SameTurn (rig.update self (machine, noted) reply)
      (other.update self (its, noted') reply) := by
  refine ⟨rfl, ?_, h.putMachine hsame⟩
  show other.write noted' = rig.write noted
  rw [hnoted, Rig.write_congr h.filter]

theorem led (h : names.SameRig rig other) (owner : Nat) (command : Led.Command) :
    names.SameTurn (rig.led owner command) (other.led owner command) := by
  cases hm : rig.machines[owner]? with
  | none =>
    simp only [Rig.led, hm, h.missing hm]
    exact ⟨rfl, rfl, h⟩
  | some machine =>
    obtain ⟨its, hits, hsame⟩ := h.exists_machine hm
    have hbank : other.bankOf? its = rig.bankOf? machine := by
      rw [Rig.bankOf?, Rig.bankOf?, hsame.bank, h.banks]
    simp only [Rig.led, hm, hits, hbank, hsame.devices]
    cases rig.bankOf? machine with
    | none => exact ⟨rfl, rfl, h⟩
    | some found =>
      obtain ⟨position, bank⟩ := found
      simp only
      cases command.perform bank machine.devices with
      | error error => exact ⟨rfl, rfl, h⟩
      | ok motion => exact ⟨rfl, rfl, h.putBank position motion.bank⟩

theorem tally (h : names.SameRig rig other) (origin : Origin) :
    names.SameTurn (rig.tally origin) (other.tally (names.origin origin)) := by
  have hmachine : (names.origin origin).machine = origin.machine := rfl
  cases hm : rig.machines[origin.machine]? with
  | none =>
    simp only [Rig.tally, hm, hmachine, h.missing hm]
    exact ⟨rfl, rfl, h⟩
  | some home =>
    obtain ⟨its, hits, hsame⟩ := h.exists_machine hm
    simp only [Rig.tally, hm, hmachine, hits]
    exact ⟨hsame.runs origin.serial, rfl, h.putMachine (hsame.tally origin.serial)⟩

theorem dispatch (h : names.SameRig rig other) {entry its : Entry}
    (hentry : names.SameEntry entry its) (number : CallNumber) (arguments : Arguments) :
    names.SameTurn (rig.dispatch entry number arguments)
      (other.dispatch its number arguments) := by
  obtain ⟨origin, handler⟩ := entry
  obtain ⟨origin', handler'⟩ := its
  obtain ⟨hhandler, horigin⟩ := hentry
  obtain rfl : handler' = handler := hhandler
  cases handler' with
  | led operation owner =>
    simp only [Rig.dispatch, Rig.ledCall_eq]
    exact (h.led owner _).finish _ _
  | capability query owner =>
    simp only [Rig.dispatch, h.devices]
    exact ⟨rfl, rfl, h⟩
  | version => exact ⟨rfl, rfl, h⟩
  | platform id => exact ⟨rfl, rfl, h⟩
  | custom routine =>
    cases routine with
    | counter =>
      obtain rfl : origin' = names.origin origin := horigin rfl
      have hturn := h.tally origin
      simp only [Rig.dispatch, hturn.answer]
      exact ⟨rfl, rfl, hturn.rig⟩
    | _ => exact ⟨rfl, rfl, h⟩

theorem tryInvoke (h : names.SameRig rig other) (i : Nat) (number : CallNumber)
    (arguments : Arguments) :
    names.SameTurn (rig.tryInvoke i number arguments) (other.tryInvoke i number arguments) := by
  rcases h.lookup_cases i number with ⟨hl, hits⟩ | ⟨entry, its, hl, hits, hentry⟩
  · rw [Rig.tryInvoke_of_absent hl, Rig.tryInvoke_of_absent hits]
    exact ⟨rfl, rfl, h⟩
  · rw [Rig.tryInvoke_of_lookup hl, Rig.tryInvoke_of_lookup hits]
    exact (h.dispatch hentry number arguments).finish _ _

/-- A step that does not compare entries is the same turn in both rigs. -/
theorem step (h : names.SameRig rig other) {step : Step}
    (hcompare : step.request.compares = false) :
    names.SameTurn (rig.step step) (other.step step) := by
  obtain ⟨self, request⟩ := step
  cases hm : rig.machines[self]? with
  | none =>
    rw [Rig.step_of_missing hm, Rig.step_of_missing (h.missing hm)]
    exact h.tell _
  | some machine =>
    obtain ⟨its, hits, hsame⟩ := h.exists_machine hm
    rw [Rig.step_of_machine hm, Rig.step_of_machine hits]
    cases request with
    | setBoard image =>
      cases image with
      | none =>
        exact h.update (hsame.withBoard none) rfl _
      | some bytes =>
        simp only [Rig.serve, Rig.setBoard, Machine.setBoard]
        cases Board.decode bytes with
        | error error => exact h.tell _
        | ok board =>
          exact h.update (hsame.withBoard (some board)) rfl _
    | setBank bank =>
      simp only [Rig.serve, h.banks]
      split
      · exact h.update (hsame.withBank bank) rfl _
      · exact h.tell _
    | registerStandard =>
      simp only [Rig.serve, hsame.platform]
      split
      · exact h.tell _
      · rename_i platform _
        obtain ⟨hall, hnotices⟩ := hsame.registerStandard platform
        exact h.update hall hnotices _
    | registerLed source =>
      obtain ⟨hall, hnotices⟩ := hsame.registerLed source
      simp only [Rig.serve, h.length]
      split
      · exact h.update hall hnotices _
      · exact h.tell _
    | registerCapability source platform =>
      obtain ⟨hall, hnotices⟩ := hsame.registerCapability source platform
      simp only [Rig.serve, h.length]
      split
      · exact h.update hall hnotices _
      · exact h.tell _
    | invoke number arguments =>
      have hturn := (h.tryInvoke self number arguments).finish Rig.callValue
        (Rig.callNotices number)
      simp only [Rig.serve, Rig.invoke_eq]
      exact ⟨congrArg Reply.value hturn.answer, hturn.effects, hturn.rig⟩
    | tryInvoke number arguments =>
      simp only [Rig.serve, Rig.tryCall_eq]
      exact (h.tryInvoke self number arguments).finish _ _
    | register number routine =>
      cases routine with
      | none => exact h.tell _
      | some routine =>
        exact h.update (hsame.install number _) (congrArg ([·]) (hsame.notice number)) _
    | registerRoutine number routine =>
      exact h.update (hsame.install number _) (congrArg ([·]) (hsame.notice number)) _
    | copy number target source =>
      simp only [Rig.serve, Rig.copy, h.length]
      split
      · rcases h.lookup_cases source number with ⟨hl, hits⟩ | ⟨entry, its, hl, hits, hentry⟩
        · rw [hl, hits]
          exact h.tell _
        · rw [hl, hits]
          exact h.update (hsame.place target hentry) (congrArg ([·]) (hsame.notice target)) _
      · exact h.tell _
    | same number target source => cases hcompare
    | lookup number =>
      simp only [Rig.serve, hsame.contains]
      exact h.tell _
    | unregister number => exact h.update (hsame.unregister number) rfl _
    | clear => exact h.update hsame.clear rfl _
    | count =>
      simp only [Rig.serve, hsame.size]
      exact h.tell _
    | numbers =>
      simp only [Rig.serve, hsame.keys]
      exact h.tell _
    | describe =>
      simp only [Rig.serve, hsame.debugText]
      exact h.tell _
    | platform =>
      simp only [Rig.serve, hsame.platform]
      split <;> exact h.tell _
    | find kind role index =>
      simp only [Rig.serve, Machine.find, hsame.devices]
      exact h.tell _
    | findDefault kind role =>
      simp only [Rig.serve, Machine.find, hsame.devices]
      exact h.tell _
    | countDevices kind =>
      simp only [Rig.serve, Machine.countDevices, hsame.devices]
      exact h.tell _
    | devices =>
      simp only [Rig.serve, hsame.devices]
      exact h.tell _
    | hasBoard =>
      simp only [Rig.serve, hsame.board]
      exact h.tell _
    | led command =>
      simp only [Rig.serve, Rig.ledCommand_eq]
      exact (h.led self command).finish _ _
    | levels bank =>
      simp only [Rig.serve, h.banks]
      split <;> exact h.tell _
    | drive bank handle level =>
      simp only [Rig.serve, h.banks]
      split
      · exact h.tell _
      · exact ⟨rfl, rfl, h.putBank _ _⟩

/-- A comparison does nothing, whatever it is told. -/
theorem step_of_compares {step : Step} (hcompare : step.request.compares = true) (rig : Rig) :
    (rig.step step).rig = rig ∧ (rig.step step).effects = [] := by
  obtain ⟨self, request⟩ := step
  cases request with
  | same number target source =>
    cases hm : rig.machines[self]? with
    | none =>
      rw [Rig.step_of_missing hm]
      exact ⟨rfl, rfl⟩
    | some machine =>
      rw [Rig.step_of_machine hm]
      simp only [Rig.serve]
      split <;> exact ⟨rfl, rfl⟩
  | _ => cases hcompare

theorem run (h : names.SameRig rig other) (steps : List Step) :
    AgreeApart steps (rig.run steps) (other.run steps) := by
  induction steps generalizing rig other with
  | nil => exact .refl _ _
  | cons step rest ih =>
    rw [Rig.run, Rig.run]
    cases hcompare : step.request.compares with
    | true =>
      obtain ⟨hrig, heffects⟩ := step_of_compares hcompare rig
      obtain ⟨hits, hnone⟩ := step_of_compares hcompare other
      rw [hrig, heffects, hits, hnone]
      refine ⟨congrArg (List.cons []) (ih h).effects, fun i later hlater hreports => ?_⟩
      cases i with
      | zero =>
        cases hlater
        rw [hcompare] at hreports
        cases hreports
      | succ i => exact (ih h).report i later hlater hreports
    | false =>
      have hturn := h.step hcompare
      have hrest := ih hturn.rig
      rw [hturn.answer, hturn.effects, hturn.rig.registered]
      refine ⟨congrArg (List.cons _) hrest.effects, fun i later hlater hreports => ?_⟩
      cases i with
      | zero => rfl
      | succ i => exact hrest.report i later hlater hreports

end SameRig

end Renaming

end Switchboard
