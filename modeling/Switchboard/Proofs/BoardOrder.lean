import Switchboard.Proofs.AcceptedImage
import Switchboard.Proofs.BoardGrowth

/-!
# The order of a board

The search for a device stops at the first one at a place, so the order of a board decides which of
several devices at one place is found, and nothing else: where no place is shared, the search finds
whatever sits at the place, and counting never looked at the order. LED commands and capability
calls see a board only through these two, so they do not notice a board put in another order. Only
the requests that list devices or tell positions do.
-/
namespace Switchboard

namespace Board

/-- Boards on which every place holds the same device and every kind has the same count. -/
structure Alike (one other : Board) : Prop where
  find : ∀ place, one.find? place = other.find? place
  count : ∀ kind, one.count kind = other.count kind

/-- Without shared places, the order plays no part in what is found. -/
theorem find?_eq_some_iff_mem {board : Board} (hplaces : (board.map Device.place).Nodup)
    (place : Place) (device : Device) :
    board.find? place = some device ↔ device ∈ board ∧ device.place = place := by
  rw [find?_eq_some_iff]
  constructor
  · rintro ⟨hplace, n, hn, -⟩
    exact ⟨List.mem_of_getElem? hn, hplace⟩
  · rintro ⟨hmem, rfl⟩
    obtain ⟨n, hn⟩ := List.mem_iff_getElem?.1 hmem
    refine ⟨rfl, n, hn, fun j hj other hother hsame => ?_⟩
    have hplaceOther : (board.map Device.place)[j]? = some device.place := by
      rw [List.getElem?_map, hother, Option.map_some, hsame]
    have hplaceDevice : (board.map Device.place)[n]? = some device.place := by
      rw [List.getElem?_map, hn, Option.map_some]
    have hlt := (List.getElem?_eq_some_iff.1 hplaceOther).1
    have hjn := (List.getElem?_inj hlt hplaces).1 (hplaceOther.trans hplaceDevice.symm)
    omega

theorem alike_of_perm {one other : Board} (hperm : one.Perm other)
    (hplaces : (one.map Device.place).Nodup) : one.Alike other := by
  have hothers : (other.map Device.place).Nodup := (hperm.map Device.place).nodup_iff.1 hplaces
  refine ⟨fun place => ?_, fun kind => hperm.countP_eq _⟩
  apply Option.ext
  intro device
  rw [find?_eq_some_iff_mem hplaces, find?_eq_some_iff_mem hothers, hperm.mem_iff]

theorem Alike.findByArguments? {one other : Board} (h : one.Alike other)
    (kind role index : Int32) :
    one.findByArguments? kind role index = other.findByArguments? kind role index := by
  unfold Board.findByArguments?
  cases Place.ofArguments? kind role index with
  | none => rfl
  | some place => exact h.find place

end Board

theorem Capability.Query.answer_of_alike {one other : Board} (h : one.Alike other) (query : Query)
    (arguments : Arguments) : query.answer one arguments = query.answer other arguments := by
  unfold answer
  simp only [h.findByArguments?, h.count]

namespace Rig

theorem devices_withBoard {rig : Rig} {self : Nat} {found : Machine}
    (hm : rig.machines[self]? = some found) (board : Board) (owner : Nat) :
    (rig.withBoard self board).devices owner =
      if self = owner then board else rig.devices owner := by
  unfold devices
  by_cases hself : self = owner
  · subst hself
    rw [withBoard_machine hm, if_pos rfl]
    rfl
  · rw [withBoard, rewire_machine_other _ _ _ _ hself, if_neg hself]

section Alike

variable {rig : Rig} {self : Nat} {found : Machine} (hm : rig.machines[self]? = some found)
  {one other : Board} (halike : one.Alike other)

include hm halike in
/-- A command does the same over either board, whichever machine's it is. -/
theorem led_of_alike (owner : Nat) (command : Led.Command) :
    let turn := (rig.withBoard self one).led owner command
    (rig.withBoard self other).led owner command =
      ⟨turn.rig.withBoard self other, turn.answer, turn.effects⟩ := by
  by_cases hself : self = owner
  · subst hself
    exact led_withBoard hm (Led.locate_congr (halike.findByArguments? ..))
  · -- the machine of the command keeps its board, so the command is the one on the rig as it was
    have hled : ∀ board, (rig.withBoard self board).led owner command =
        ⟨(rig.led owner command).rig.withBoard self board, (rig.led owner command).answer,
          (rig.led owner command).effects⟩ := by
      intro board
      rw [withBoard, led_rewire_other _ _ _ _ hself, withBoard, led_machines]
    have hmoved : (rig.led owner command).rig.machines[self]? = some found := by
      rw [led_machines, hm]
    intro turn
    simp only [turn, hled, withBoard_withBoard hmoved]

include hm halike in
/-- A step that consults boards overlooks the order of one. -/
theorem overlooks_of_alike {step : Step} (h : rig.Consults step) :
    rig.Overlooks self one other step := by
  intro banks start turn
  have hfound : start.machines[self]? = some found := hm
  have hback := withBoard_withBoard hfound one other
  have hboard : ∀ board, rig.SameCalls (start.withBoard self board) :=
    fun board => ⟨List.length_modify .., lookup_withBoard start self board⟩
  rcases consults_cases h with ⟨owner, command, form, noted, -, hstep⟩ |
    ⟨query, owner, arguments, hstep⟩ | ⟨answer, effects, hstep⟩
  · have hone : turn = ((start.withBoard self one).led owner command).finish form noted :=
      hstep _ (hboard one)
    rw [hone, hstep _ (hboard other), led_of_alike hfound halike, Turn.finish_rig, led_machines]
    exact ⟨rfl, rfl⟩
  · have hone : turn = _ := hstep _ (hboard one)
    have hanswer : query.answer ((start.withBoard self other).devices owner) arguments =
        query.answer ((start.withBoard self one).devices owner) arguments := by
      rw [devices_withBoard hfound, devices_withBoard hfound]
      split
      · exact (query.answer_of_alike halike arguments).symm
      · rfl
    rw [hone, hstep _ (hboard other), hback, hanswer]
    exact ⟨rfl, rfl⟩
  · have hone : turn = _ := hstep _ (hboard one)
    rw [hone, hstep _ (hboard other), hback]
    exact ⟨rfl, rfl⟩

end Alike

end Rig

/-- What a reply tells, without the position of a device. -/
def Reply.unplaced : Reply → Reply
  | .found _ device => .found 0 device
  | reply => reply

theorem Machine.find_unplaced (machine : Machine) (kind role index : UInt8) :
    (machine.find kind role index).unplaced =
      match Place.ofCodes kind role index with
      | .error error => .unknownCode error
      | .ok place => (machine.devices.find? place).elim .nothing (.found 0) := by
  unfold find
  cases Place.ofCodes kind role index with
  | error error => rfl
  | ok place =>
    simp only [Board.find?_eq_locate?]
    cases machine.devices.locate? place <;> rfl

namespace Rig

section Requests

variable {rig : Rig} {self : Nat} {found : Machine} (hm : rig.machines[self]? = some found)
  {one other : Board} (halike : one.Alike other)

include hm halike in
theorem step_finds_of_alike {request : Request} (h : request.finds = true) :
    ((rig.withBoard self one).step ⟨self, request⟩).answer.unplaced =
      ((rig.withBoard self other).step ⟨self, request⟩).answer.unplaced := by
  rw [step_of_machine (withBoard_machine hm one), step_of_machine (withBoard_machine hm other)]
  have hfind : ∀ kind role index,
      (({ found with board := some one } : Machine).find kind role index).unplaced =
        (({ found with board := some other } : Machine).find kind role index).unplaced := by
    intro kind role index
    rw [Machine.find_unplaced, Machine.find_unplaced]
    cases Place.ofCodes kind role index with
    | error error => rfl
    | ok place =>
      show (one.find? place).elim Reply.nothing (Reply.found 0) =
        (other.find? place).elim Reply.nothing (Reply.found 0)
      rw [halike.find]
  cases request with
  | find kind role index => exact hfind kind role index
  | findDefault kind role => exact hfind kind role 0
  | _ => cases h

include hm halike in
theorem step_countDevices_of_alike (kind : UInt8) :
    ((rig.withBoard self one).step ⟨self, .countDevices kind⟩).answer =
      ((rig.withBoard self other).step ⟨self, .countDevices kind⟩).answer := by
  rw [step_of_machine (withBoard_machine hm one), step_of_machine (withBoard_machine hm other)]
  show Machine.countDevices _ kind = Machine.countDevices _ kind
  unfold Machine.countDevices
  cases Kind.ofCode kind with
  | error error => rfl
  | ok kind => exact congrArg Reply.count (halike.count kind)

end Requests

end Rig

/-- Two boards hold the same devices in different orders, no two of them at one place. Whichever of
the boards a machine of any rig is given, every LED command and every call that no custom routine
answers, on whatever machine, reports the same, calls to the banks included, and the banks end up
the same. At every place the same device is found, and of every kind the same number is counted;
the requests for these tell the same, apart from the position. -/
theorem order_counts_only_for_duplicates {one other : Board} (hperm : one.Perm other)
    (hplaces : (one.map Device.place).Nodup) (rig : Rig) (self : Nat) :
    let fitted (board : Board) := (rig.step ⟨self, .setBoard (some board.encode)⟩).rig
    (∀ steps, (∀ step ∈ steps, rig.Consults step) →
      (fitted one).run steps = (fitted other).run steps ∧
      ((fitted one).after steps).banks = ((fitted other).after steps).banks) ∧
    (∀ place, one.find? place = other.find? place) ∧
    (∀ kind, one.count kind = other.count kind) ∧
    (∀ request, request.finds = true →
      ((fitted one).step ⟨self, request⟩).answer.unplaced =
        ((fitted other).step ⟨self, request⟩).answer.unplaced) ∧
    ∀ kind, ((fitted one).step ⟨self, .countDevices kind⟩).answer =
      ((fitted other).step ⟨self, .countDevices kind⟩).answer := by
  intro fitted
  have halike := Board.alike_of_perm hperm hplaces
  have hfitted : ∀ board, fitted board = rig.withBoard self board :=
    fun board => rig.step_setBoard_withBoard self board.decode_encode
  cases hm : rig.machines[self]? with
  | none =>
    -- there is no machine to be given a board
    have hsame : fitted one = fitted other := by
      rw [hfitted, hfitted, Rig.withBoard, Rig.withBoard, Rig.rewire_of_missing _ _ hm,
        Rig.rewire_of_missing _ _ hm]
    rw [hsame]
    exact ⟨fun _ _ => ⟨rfl, rfl⟩, halike.find, halike.count, fun _ _ => rfl, fun _ => rfl⟩
  | some found =>
    rw [hfitted, hfitted]
    refine ⟨fun steps hsteps => ?_, halike.find, halike.count,
      fun request => Rig.step_finds_of_alike hm halike, Rig.step_countDevices_of_alike hm halike⟩
    obtain ⟨hrun, hafter⟩ := Rig.run_of_overlooks hm fun step hstep =>
      Rig.overlooks_of_alike hm halike (hsteps step hstep)
    rw [hrun, hafter]
    exact ⟨rfl, rfl⟩

/-- Two LEDs, the first of them active low, and a button at the place of the second one but for the
kind. -/
def lampBoard : Board :=
  [⟨⟨.led, .user, 0⟩, ⟨1⟩, 3⟩, ⟨⟨.led, .user, 1⟩, ⟨0⟩, 4⟩, ⟨⟨.button, .user, 1⟩, ⟨0x82⟩, 5⟩]

/-- A runtime on a bank of four pins, and a machine that borrows its LED calls. -/
def lampRig : Rig :=
  Rig.after ⟨[{ platform := some 7 }, {}], [⟨.sized 4, .empty⟩], some (.upTo .trace)⟩
    [⟨0, .setBank (some 0)⟩, ⟨0, .registerStandard⟩, ⟨1, .registerLed 0⟩]

/-- Index 256 is index 0 on the board as on the reversed one, where its LED comes last. The LED at
index 1 is found as well, though the bank has no pin for it. -/
theorem order_counts_only_for_duplicates_reversed :
    let fitted (board : Board) := (lampRig.step ⟨0, .setBoard (some board.encode)⟩).rig
    let steps : List Step := [⟨0, .invoke .ledToggle ⟨1, 2, 256⟩⟩,
      ⟨1, .invoke .ledSet ⟨1, 2, 0x10001⟩⟩, ⟨0, .led ⟨.read, ⟨1, 2, 0⟩⟩⟩,
      ⟨0, .tryInvoke .capFlags ⟨2, 2, 1⟩⟩, ⟨1, .invoke .capFlags ⟨2, 2, 1⟩⟩]
    (fitted lampBoard).run steps = (fitted lampBoard.reverse).run steps ∧
    ((fitted lampBoard.reverse).run steps).map (·.reply) =
      [.value 1, .value 0, .flag false, .value 0x82, .value (-1)] ∧
    ((fitted lampBoard).step ⟨0, .find 1 2 0⟩).answer = .found 0 ⟨⟨.led, .user, 0⟩, ⟨1⟩, 3⟩ ∧
    ((fitted lampBoard.reverse).step ⟨0, .find 1 2 0⟩).answer =
      .found 2 ⟨⟨.led, .user, 0⟩, ⟨1⟩, 3⟩ := by
  intro fitted steps
  have hplaces : (lampBoard.map Device.place).Nodup := by decide
  obtain ⟨hrun, -⟩ := order_counts_only_for_duplicates lampBoard.reverse_perm.symm hplaces lampRig 0
  refine ⟨(hrun steps ?_).1, by decide, by decide, by decide⟩
  simp only [steps, List.forall_mem_cons]
  refine ⟨Or.inl ⟨0, ⟨.toggle, ⟨1, 2, 256⟩⟩, by decide⟩,
    Or.inl ⟨0, ⟨.write true, ⟨1, 2, 1⟩⟩, by decide⟩, Or.inl ⟨0, ⟨.read, ⟨1, 2, 0⟩⟩, by decide⟩,
    Or.inr ⟨.capFlags, ⟨2, 2, 1⟩, rfl, ?_⟩,
    Or.inr ⟨.capFlags, ⟨2, 2, 1⟩, rfl, ?_⟩, fun _ hstep => absurd hstep List.not_mem_nil⟩
  · intro entry hentry
    have hflags : lampRig.lookup 0 .capFlags = some ⟨⟨0, 7⟩, .capability .flags 0⟩ := by decide
    obtain rfl := Option.some.inj (hflags.symm.trans hentry)
    nofun
  · intro entry hentry
    have hnone : lampRig.lookup 1 .capFlags = none := by decide
    cases hnone.symm.trans hentry

end Switchboard
