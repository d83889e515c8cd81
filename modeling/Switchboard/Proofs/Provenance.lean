import Mathlib.Data.List.Induction
import Mathlib.Data.List.Nodup
import Switchboard.Proofs.Installation

/-!
# Where an entry comes from

Every entry of a session stems from one installation, through copies and through steps that
leave it alone. The installation fixes early what is done: the operation or query, the machine it
concerns, the platform. The board and the bank it is done with are read when the call is made,
from that machine and not from the one that is called.
-/
namespace Switchboard

/-- The machine whose LEDs a step registers. -/
def Step.lit? (step : Step) : Option Nat :=
  match step.request with
  | .registerLed source => some source
  | .registerStandard => some step.machine
  | _ => none

/-- An installation: the rig it was made in, the step, and the number it was made under. -/
structure Installation where
  rig : Rig
  step : Step
  number : CallNumber

namespace Rig

/-- The machine over whose board a step registers the capability handlers, and the platform that
they are told. -/
def described? (rig : Rig) (step : Step) : Option (Nat × Int32) :=
  match step.request with
  | .registerCapability source platform => some (source, platform)
  | .registerStandard =>
    ((rig.machines[step.machine]?).bind (·.platform)).map (step.machine, ·)
  | _ => none

/-- The step puts an entry under the number on the machine, or takes away what is there. -/
def Replaces (rig : Rig) (step : Step) (machine : Nat) (number : CallNumber) : Prop :=
  machine = step.machine ∧
    match step.request with
    | .copy copied target source => target = number ∧ (rig.lookup source copied).isSome
    | .unregister gone => gone = number
    | .clear => True
    | _ => number ∈ (rig.installs step).map Prod.fst

/-- The rig with another board and another bank on one machine. -/
def rewire (rig : Rig) (machine : Nat) (board : Option Board) (bank : Option Nat) : Rig :=
  let change (found : Machine) : Machine := { found with board := board, bank := bank }
  { rig with machines := rig.machines.modify machine change }

end Rig

/-- After `history`, the entry under `number` on `machine` was made by `made`, and has come there
by copying, to other numbers and machines any number of times. -/
inductive Stems (start : Rig) : List Step → Nat → CallNumber → Installation → Prop
  | installed {history : List Step} {step : Step} {number : CallNumber}
      (hm : step.machine < (start.after history).machines.length)
      (h : number ∈ ((start.after history).installs step).map Prod.fst) :
      Stems start (history ++ [step]) step.machine number ⟨start.after history, step, number⟩
  | copied {history : List Step} {machine source : Nat} {number target : CallNumber}
      {made : Installation} (hm : machine < (start.after history).machines.length)
      (h : Stems start history source number made) :
      Stems start (history ++ [⟨machine, .copy number target source⟩]) machine target made
  | kept {history : List Step} {step : Step} {machine : Nat} {number : CallNumber}
      {made : Installation} (h : Stems start history machine number made)
      (hkept : ¬ (start.after history).Replaces step machine number) :
      Stems start (history ++ [step]) machine number made

namespace Rig

section Installs

variable {rig : Rig} {step : Step}

theorem ledSet_subset_installs {owner : Nat} (h : step.lit? = some owner)
    (hany : rig.installs step ≠ []) : Handler.ledSet owner ⊆ rig.installs step := by
  obtain ⟨self, request⟩ := step
  cases request with
  | registerLed source =>
    cases h
    simp only [installs] at hany ⊢
    split
    · exact List.Subset.refl _
    · rename_i hs
      rw [if_neg hs] at hany
      exact absurd rfl hany
  | registerStandard =>
    cases h
    simp only [installs] at hany ⊢
    cases hp : (rig.machines[self]?).bind (·.platform) with
    | none =>
      rw [hp] at hany
      exact absurd rfl hany
    | some platform => exact List.subset_append_left _ _
  | _ => cases h

theorem capabilitySet_subset_installs {owner : Nat} {platform : Int32}
    (h : rig.described? step = some (owner, platform)) (hany : rig.installs step ≠ []) :
    Handler.capabilitySet owner platform ⊆ rig.installs step := by
  obtain ⟨self, request⟩ := step
  cases request with
  | registerCapability source id =>
    cases h
    simp only [installs] at hany ⊢
    split
    · exact List.Subset.refl _
    · rename_i hs
      rw [if_neg hs] at hany
      exact absurd rfl hany
  | registerStandard =>
    simp only [described?] at h
    cases hp : (rig.machines[self]?).bind (·.platform) with
    | none =>
      rw [hp] at h
      cases h
    | some id =>
      rw [hp] at h
      cases h
      simp only [installs, hp]
      exact List.subset_append_right _ _
  | _ => cases h

/-- A step makes one handler for each number. -/
theorem installs_unique {number : CallNumber} {one other : Handler}
    (h : (number, one) ∈ rig.installs step) (h' : (number, other) ∈ rig.installs step) :
    one = other := by
  have heq := List.inj_on_of_nodup_map (rig.installs_nodup step) h h' rfl
  exact (Prod.mk.inj heq).2

theorem installed_led {number : CallNumber} {handler : Handler} {owner : Nat}
    {operation : Led.Operation} (hmem : (number, handler) ∈ rig.installs step)
    (h : step.lit? = some owner) (hn : number = operation.number) :
    handler = .led operation owner := by
  subst hn
  have hall := ledSet_subset_installs h (List.ne_nil_of_mem hmem)
  exact installs_unique hmem (hall (Handler.mem_ledSet operation owner))

theorem installed_capability {number : CallNumber} {handler asked : Handler} {owner : Nat}
    {platform : Int32} (hmem : (number, handler) ∈ rig.installs step)
    (h : rig.described? step = some (owner, platform))
    (hn : (number, asked) ∈ Handler.capabilitySet owner platform) : handler = asked :=
  installs_unique hmem (capabilitySet_subset_installs h (List.ne_nil_of_mem hmem) hn)

end Installs

theorem lookup_of_kept {rig : Rig} {step : Step} {machine : Nat} {number : CallNumber}
    (h : ¬ rig.Replaces step machine number) :
    (rig.step step).rig.lookup machine number = rig.lookup machine number := by
  rw [lookup_step]
  by_cases hm : machine = step.machine
  · rw [if_pos hm, lookup_eq]
    cases rig.machines[machine]? with
    | none => rfl
    | some found =>
      have hbooked : number ∉ (rig.installs step).map Prod.fst →
          (found.booked step.machine (rig.installs step)).1.get? number =
            found.registry.get? number := by
        intro hn
        rw [← Machine.stamp_numbers step.machine found.issued] at hn
        exact Registry.get?_putAll_of_not_mem _ hn
      have hreq := fun hmatch => h ⟨hm, hmatch⟩
      obtain ⟨self, request⟩ := step
      rw [Option.bind_some, Option.bind_some]
      cases request with
      | copy copied target source =>
        cases hl : rig.lookup source copied with
        | none => simp only [filed, hl, Machine.books]
        | some entry =>
          have htarget : number ≠ target := fun ht => hreq ⟨ht.symm, by rw [hl]; rfl⟩
          simp only [filed, hl]
          rw [SortedMap.get?_insert, if_neg htarget]
      | unregister gone =>
        have hgone : number ≠ gone := fun hg => hreq hg.symm
        simp only [filed]
        rw [SortedMap.get?_erase, if_neg hgone]
      | clear => exact absurd trivial hreq
      | _ => exact hbooked hreq
  · rw [if_neg hm]

theorem lookup_copied {rig : Rig} {machine source : Nat} {number target : CallNumber}
    {entry : Entry} (hm : machine < rig.machines.length)
    (h : rig.lookup source number = some entry) :
    (rig.step ⟨machine, .copy number target source⟩).rig.lookup machine target = some entry := by
  rw [lookup_step, if_pos rfl, List.getElem?_eq_getElem hm, Option.bind_some]
  simp only [filed, h]
  rw [SortedMap.get?_insert, if_pos rfl]

/-- The entry that stems from an installation has the handler that was made there. -/
theorem lookup_of_stems {start : Rig} {history : List Step} {machine : Nat} {number : CallNumber}
    {made : Installation} (h : Stems start history machine number made) :
    ∃ origin handler, (made.number, handler) ∈ made.rig.installs made.step ∧
      (start.after history).lookup machine number = some ⟨origin, handler⟩ := by
  induction h with
  | installed hm h =>
    obtain ⟨⟨number, handler⟩, hmem, rfl⟩ := List.mem_map.1 h
    obtain ⟨origin, hl⟩ := lookup_installed hm hmem
    refine ⟨origin, handler, hmem, ?_⟩
    rw [after_snoc]
    exact hl
  | copied hm _ ih =>
    obtain ⟨origin, handler, hmem, hl⟩ := ih
    refine ⟨origin, handler, hmem, ?_⟩
    rw [after_snoc]
    exact lookup_copied hm hl
  | kept _ hkept ih =>
    obtain ⟨origin, handler, hmem, hl⟩ := ih
    refine ⟨origin, handler, hmem, ?_⟩
    rw [after_snoc, lookup_of_kept hkept]
    exact hl

/-- No entry of a session is without an installation. -/
theorem exists_stems {session : Session} {start : Rig} (hstart : session.rig = .ok start)
    (history : List Step) {machine : Nat} {number : CallNumber} {entry : Entry}
    (h : (start.after history).lookup machine number = some entry) :
    ∃ made, Stems start history machine number made := by
  induction history using List.reverseRecOn generalizing machine number entry with
  | nil =>
    rw [after_nil, lookup_eq] at h
    obtain ⟨found, hfound, hentry⟩ := Option.bind_eq_some_iff.1 h
    obtain ⟨platform, board, rfl⟩ := Session.machine_fresh hstart hfound
    cases hentry
  | append_singleton history step ih =>
    rw [after_snoc] at h
    by_cases hr : (start.after history).Replaces step machine number
    · obtain ⟨rfl, hr⟩ := hr
      rw [lookup_step, if_pos rfl] at h
      obtain ⟨found, hfound, hentry⟩ := Option.bind_eq_some_iff.1 h
      have hm := (List.getElem?_eq_some_iff.1 hfound).1
      obtain ⟨self, request⟩ := step
      cases request with
      | copy copied target source =>
        obtain ⟨rfl, hsome⟩ := hr
        obtain ⟨_, hl⟩ := Option.isSome_iff_exists.1 hsome
        obtain ⟨made, hmade⟩ := ih hl
        exact ⟨made, .copied hm hmade⟩
      | unregister gone =>
        cases hr
        simp only [filed] at hentry
        rw [SortedMap.get?_erase, if_pos rfl] at hentry
        cases hentry
      | clear => cases hentry
      | _ => exact ⟨_, .installed hm hr⟩
    · rw [lookup_of_kept hr] at h
      obtain ⟨made, hmade⟩ := ih h
      exact ⟨made, .kept hmade hr⟩

section Rewire

variable (rig : Rig) (machine : Nat) (board : Option Board) (bank : Option Nat)

theorem lookup_rewire (i : Nat) (number : CallNumber) :
    (rig.rewire machine board bank).lookup i number = rig.lookup i number := by
  rw [lookup_eq, lookup_eq, rewire, List.getElem?_modify]
  cases rig.machines[i]? with
  | none => rfl
  | some found =>
    rw [Option.map_eq_map, Option.map_some, Option.bind_some, Option.bind_some]
    split <;> rfl

theorem rewire_machine_other {i : Nat} (h : machine ≠ i) :
    (rig.rewire machine board bank).machines[i]? = rig.machines[i]? := by
  rw [rewire, List.getElem?_modify]
  cases rig.machines[i]? with
  | none => rfl
  | some found => rw [Option.map_eq_map, Option.map_some, if_neg h]

/-- A command works on its owner's board and bank, whatever others hold. -/
theorem led_rewire_other {owner : Nat} (h : machine ≠ owner) (command : Led.Command) :
    (rig.rewire machine board bank).led owner command =
      { rig.led owner command with
        rig := (rig.led owner command).rig.rewire machine board bank } := by
  have hbank : ∀ found, (rig.rewire machine board bank).bankOf? found = rig.bankOf? found :=
    fun _ => rfl
  unfold led
  rw [rewire_machine_other rig machine board bank h]
  cases rig.machines[owner]? with
  | none => rfl
  | some found =>
    simp only [hbank]
    cases rig.bankOf? found with
    | none => rfl
    | some pair =>
      obtain ⟨position, asked⟩ := pair
      simp only
      cases command.perform asked found.devices <;> rfl

end Rewire

end Rig

/-- A call that stems from an LED registration is the LED command of the registered machine, run
on what that machine holds at the call; what the called machine holds does not matter and stays.
One that stems from a capability registration asks the board that the registered machine holds at
the call, and the platform is the one told at the registration. -/
theorem call_of_stems {start : Rig} {history : List Step} {machine : Nat} {number : CallNumber}
    {made : Installation} (h : Stems start history machine number made) (arguments : Arguments) :
    let rig := start.after history
    let turn := rig.invoke machine number arguments
    (∀ (operation : Led.Operation) (owner : Nat), made.step.lit? = some owner →
        made.number = operation.number →
      let direct := rig.led owner (operation.command arguments)
      turn.answer = Rig.ledValue direct.answer ∧
      turn.effects.filterMap Effect.call? = direct.effects.filterMap Effect.call? ∧
      turn.rig = direct.rig ∧ turn.rig.machines = rig.machines ∧
      (machine ≠ owner → ∀ board bank,
        (rig.rewire machine board bank).invoke machine number arguments =
          { turn with rig := turn.rig.rewire machine board bank })) ∧
    ∀ owner platform, made.rig.described? made.step = some (owner, platform) →
      (∀ query : Capability.Query, made.number = query.number →
        turn = ⟨rig, query.answer (rig.devices owner) arguments, []⟩) ∧
      (made.number = .sysPlatform → turn = ⟨rig, platform, []⟩) := by
  intro rig turn
  obtain ⟨origin, handler, hmem, hl⟩ := Rig.lookup_of_stems h
  have hturn : turn = rig.dispatch ⟨origin, handler⟩ number arguments :=
    Rig.invoke_of_lookup hl arguments
  refine ⟨?_, ?_⟩
  · intro operation owner hlit hn direct
    obtain rfl := Rig.installed_led hmem hlit hn
    have hled : turn = direct.finish Rig.ledValue (Rig.ledNotices number arguments) :=
      Rig.invoke_of_led hl arguments
    rw [hled]
    refine ⟨rfl, direct.finish_calls _ _, rfl, Rig.led_machines rig owner _, ?_⟩
    intro hother board bank
    have hsame := (Rig.lookup_rewire rig machine board bank machine number).trans hl
    rw [Rig.invoke_of_led hsame, Rig.led_rewire_other rig machine board bank hother]
    rfl
  · intro owner platform hdescribed
    refine ⟨?_, ?_⟩
    · intro query hn
      have hasked : (made.number, Handler.capability query owner) ∈
          Handler.capabilitySet owner platform := by
        rw [hn]
        exact Handler.mem_capabilitySet_query query owner platform
      obtain rfl := Rig.installed_capability hmem hdescribed hasked
      exact hturn
    · intro hn
      have hasked : (made.number, Handler.platform platform) ∈
          Handler.capabilitySet owner platform := by
        rw [hn]
        exact Handler.mem_capabilitySet_platform owner platform
      obtain rfl := Rig.installed_capability hmem hdescribed hasked
      exact hturn

/-- What machine 1 lends to machine 0, its LEDs and its board, machine 2 copies to numbers of its
own. -/
def borrowedSteps : List Step :=
  [⟨0, .registerLed 1⟩] ++ [⟨0, .registerCapability 1 7⟩] ++ [⟨2, .copy .ledOn 66 0⟩] ++
    [⟨2, .copy .capExists 67 0⟩] ++ [⟨2, .copy .sysPlatform 68 0⟩]

/-- Only then does machine 1 get a bank, and a board that it changes for another one. -/
def lendingSteps : List Step :=
  borrowedSteps ++ [⟨0, .clear⟩] ++ [⟨1, .setBank (some 0)⟩] ++
    [⟨1, .setBoard (some [1, 2, 0, 0, 9, 0, 0, 0])⟩] ++
    [⟨1, .setBoard (some [1, 2, 1, 0, 10, 0, 0, 0])⟩]

def lendingRig : Rig := ⟨[{}, {}, {}], [⟨.sound, .empty⟩], some (.upTo .trace)⟩

/-- The copies light the light of machine 1 and find it on the board that machine 1 has changed to,
although machine 2 has neither a board nor a bank. The platform is the one told before all that. -/
theorem call_of_stems_lent :
    let rig := lendingRig.after lendingSteps
    let told := lendingRig.after [⟨0, .registerLed 1⟩]
    Stems lendingRig lendingSteps 2 66 ⟨lendingRig, ⟨0, .registerLed 1⟩, .ledOn⟩ ∧
    Stems lendingRig lendingSteps 2 67 ⟨told, ⟨0, .registerCapability 1 7⟩, .capExists⟩ ∧
    Stems lendingRig lendingSteps 2 68 ⟨told, ⟨0, .registerCapability 1 7⟩, .sysPlatform⟩ ∧
    (rig.machines[2]?.map fun found => (found.board, found.bank)) = some (none, none) ∧
    (rig.invoke 2 66 ⟨1, 2, 1⟩).answer = 1 ∧
    (rig.invoke 2 66 ⟨1, 2, 1⟩).effects.filterMap Effect.call? =
      [(0, .write 10 true false true)] ∧
    rig.invoke 2 67 ⟨1, 2, 1⟩ = ⟨rig, 1, []⟩ ∧
    rig.invoke 2 67 ⟨1, 2, 0⟩ = ⟨rig, 0, []⟩ ∧
    rig.invoke 2 68 ⟨1, 2, 1⟩ = ⟨rig, 7, []⟩ := by
  intro rig told
  have hlit : Stems lendingRig [⟨0, .registerLed 1⟩] 0 .ledOn
      ⟨lendingRig, ⟨0, .registerLed 1⟩, .ledOn⟩ :=
    @Stems.installed lendingRig [] ⟨0, .registerLed 1⟩ .ledOn (by decide) (by decide)
  have hdescribed : ∀ number ∈ (told.installs ⟨0, .registerCapability 1 7⟩).map Prod.fst,
      Stems lendingRig ([⟨0, .registerLed 1⟩] ++ [⟨0, .registerCapability 1 7⟩]) 0 number
        ⟨told, ⟨0, .registerCapability 1 7⟩, number⟩ :=
    fun number => @Stems.installed lendingRig [⟨0, .registerLed 1⟩] ⟨0, .registerCapability 1 7⟩
      number (by decide)
  have hled : Stems lendingRig borrowedSteps 2 66 ⟨lendingRig, ⟨0, .registerLed 1⟩, .ledOn⟩ :=
    .kept (.kept (@Stems.copied lendingRig _ 2 0 .ledOn 66 _ (by decide)
      (.kept hlit fun h => absurd h.2 (by decide))) fun h => absurd h.2.1 (by decide))
      fun h => absurd h.2.1 (by decide)
  have hexists : Stems lendingRig borrowedSteps 2 67
      ⟨told, ⟨0, .registerCapability 1 7⟩, .capExists⟩ :=
    .kept (@Stems.copied lendingRig _ 2 0 .capExists 67 _ (by decide)
      (.kept (hdescribed .capExists (by decide)) fun h => absurd h.1 (by decide)))
      fun h => absurd h.2.1 (by decide)
  have hplatform : Stems lendingRig borrowedSteps 2 68
      ⟨told, ⟨0, .registerCapability 1 7⟩, .sysPlatform⟩ :=
    @Stems.copied lendingRig _ 2 0 .sysPlatform 68 _ (by decide)
      (.kept (.kept (hdescribed .sysPlatform (by decide)) fun h => absurd h.1 (by decide))
        fun h => absurd h.1 (by decide))
  -- the other machines' steps leave what machine 2 has
  have hkept : ∀ {number : CallNumber} {made : Installation},
      Stems lendingRig borrowedSteps 2 number made → Stems lendingRig lendingSteps 2 number made :=
    fun hstems => .kept (.kept (.kept (.kept hstems fun h => absurd h.1 (by decide))
      fun h => absurd h.1 (by decide)) fun h => absurd h.1 (by decide))
      fun h => absurd h.1 (by decide)
  obtain ⟨hanswer, hcalls, -⟩ := (call_of_stems (hkept hled) ⟨1, 2, 1⟩).1 .on 1 rfl rfl
  have hfound (arguments : Arguments) :=
    ((call_of_stems (hkept hexists) arguments).2 1 7 rfl).1 .present rfl
  have htold := ((call_of_stems (hkept hplatform) ⟨1, 2, 1⟩).2 1 7 rfl).2 rfl
  exact ⟨hkept hled, hkept hexists, hkept hplatform, rfl, hanswer, hcalls, hfound _, hfound _,
    htold⟩

end Switchboard
