import Mathlib.Algebra.BigOperators.Ring.Finset
import Mathlib.Data.Finset.Prod
import Switchboard.Proofs.BoardGrowth
import Switchboard.Proofs.RawLookup

/-!
# Counting devices and probing places

The devices of a kind can be counted, or every role and index can be probed for one. A probe sees a
place and not how many devices share it, so probing finds at most as many as counting, and as many
exactly if no two devices of the kind share role and index. The counts of all kinds make up the
whole board. Answers are 32-bit numbers; they tell the true counts of a board that has fewer than
2^31 devices.
-/
namespace Switchboard

theorem Kind.code_toNat_inj {one other : Kind} (h : one.code.toNat = other.code.toNat) :
    one = other := by
  have hone := (Kind.getElem?_all_iff one.code.toNat one).2 rfl
  have hother := (Kind.getElem?_all_iff one.code.toNat other).2 h
  exact Option.some.inj (hone.symm.trans hother)

theorem Role.code_toNat_inj {one other : Role} (h : one.code.toNat = other.code.toNat) :
    one = other := by
  have hone := (Role.getElem?_all_iff one.code.toNat one).2 rfl
  have hother := (Role.getElem?_all_iff one.code.toNat other).2 h
  exact Option.some.inj (hone.symm.trans hother)

/-- Every number up to the last code is a code. -/
theorem Kind.exists_ofArgument? {argument : Int32} (hlow : 0 ≤ argument.toInt)
    (hhigh : argument.toInt ≤ 12) : ∃ kind, ofArgument? argument = some kind := by
  have hlt : argument.toInt.toNat < all.length := by
    show argument.toInt.toNat < 13
    omega
  have hget := List.getElem?_eq_getElem hlt
  have hcode := (Kind.getElem?_all_iff _ _).1 hget
  refine ⟨all[argument.toInt.toNat], ?_⟩
  rw [Kind.ofArgument?_eq_some_iff]
  omega

theorem Kind.ofArgument?_eq_none {argument : Int32}
    (h : ¬ (0 ≤ argument.toInt ∧ argument.toInt ≤ 12)) : ofArgument? argument = none := by
  rw [Option.eq_none_iff_forall_ne_some]
  intro kind hkind
  have hle := kind.code_toNat_le
  have hcode := (Kind.ofArgument?_eq_some_iff argument kind).1 hkind
  omega

namespace Board

/-- Where the devices of a kind sit, role and index as numbers, once for each device. -/
def seats (board : Board) (kind : Kind) : List (Nat × Nat) :=
  (board.filter (·.place.kind == kind)).map fun device =>
    (device.place.role.code.toNat, device.place.index.toNat)

/-- No two devices of the kind with this code share role and index. -/
def Unshared (board : Board) (kind : Int32) : Prop :=
  board.Pairwise fun one other =>
    one.place.kind.code.toNat = kind.toInt → other.place.kind.code.toNat = kind.toInt →
      one.place.role = other.place.role → one.place.index ≠ other.place.index

instance (board : Board) (kind : Int32) : Decidable (board.Unshared kind) :=
  inferInstanceAs (Decidable (List.Pairwise _ _))

/-- The roles and indices that can be probed. -/
def grid : Finset (Nat × Nat) := Finset.range 6 ×ˢ Finset.range 256

theorem length_seats (board : Board) (kind : Kind) :
    (board.seats kind).length = board.count kind := by
  rw [seats, List.length_map, count, List.countP_eq_length_filter]

theorem mem_seats (board : Board) (kind : Kind) (seat : Nat × Nat) :
    seat ∈ board.seats kind ↔ ∃ device ∈ board, device.place.kind = kind ∧
      device.place.role.code.toNat = seat.1 ∧ device.place.index.toNat = seat.2 := by
  obtain ⟨role, index⟩ := seat
  simp [seats, and_assoc]

theorem mem_grid_of_mem_seats {board : Board} {kind : Kind} {seat : Nat × Nat}
    (h : seat ∈ board.seats kind) : seat ∈ grid := by
  obtain ⟨device, -, -, hrole, hindex⟩ := (board.mem_seats kind seat).1 h
  have hr := device.place.role.code_toNat_le
  have hi : device.place.index.toNat < 2 ^ 8 := device.place.index.toNat_lt
  rw [grid, Finset.mem_product, Finset.mem_range, Finset.mem_range]
  omega

theorem unshared_iff_nodup_seats (board : Board) {argument : Int32} {kind : Kind}
    (h : Kind.ofArgument? argument = some kind) :
    board.Unshared argument ↔ (board.seats kind).Nodup := by
  have hcode := (Kind.ofArgument?_eq_some_iff argument kind).1 h
  have hkind : ∀ device : Device, (device.place.kind == kind) = true ↔
      (device.place.kind.code.toNat : Int) = argument.toInt := by
    intro device
    rw [beq_iff_eq]
    constructor
    · rintro rfl
      exact hcode.symm
    · intro hsame
      apply Kind.code_toNat_inj
      omega
  unfold Unshared seats List.Nodup
  rw [List.pairwise_map, List.pairwise_filter]
  refine List.Pairwise.iff fun {one other} => ?_
  rw [hkind, hkind]
  refine imp_congr_right fun _ => imp_congr_right fun _ => ?_
  constructor
  · intro hapart hsame
    obtain ⟨hrole, hindex⟩ := Prod.mk.inj hsame
    exact hapart (Role.code_toNat_inj hrole) (UInt8.toNat_inj.1 hindex)
  · intro hapart hrole hindex
    apply hapart
    rw [hrole, hindex]

/-- A probe within the grid hits the seats of the kind and nothing else. -/
theorem present_iff_mem_seats (board : Board) {argument : Int32} {kind : Kind}
    (h : Kind.ofArgument? argument = some kind) {seat : Nat × Nat} (hseat : seat ∈ grid) :
    Capability.Query.present.answer board
        ⟨argument, Int32.ofNat seat.1, Int32.ofNat seat.2⟩ = 1 ↔
      seat ∈ board.seats kind := by
  obtain ⟨role, index⟩ := seat
  simp only [grid, Finset.mem_product, Finset.mem_range] at hseat
  have hrole : (Int32.ofNat role).toInt = role := Int32.toInt_ofNat_of_lt (by omega)
  have hindex : (Int32.ofNat index).toInt = index := Int32.toInt_ofNat_of_lt (by omega)
  have hcode := (Kind.ofArgument?_eq_some_iff argument kind).1 h
  have hnamed : ∀ device : Device,
      device.NamedBy argument (Int32.ofNat role) (Int32.ofNat index) ↔
        device.place.kind = kind ∧ device.place.role.code.toNat = role ∧
          device.place.index.toNat = index := by
    intro device
    rw [Device.NamedBy, hrole, hindex]
    constructor
    · rintro ⟨hk, hr, hi⟩
      refine ⟨Kind.code_toNat_inj ?_, ?_, ?_⟩ <;> omega
    · rintro ⟨rfl, hr, hi⟩
      omega
  rw [mem_seats]
  cases hfound : board.findByArguments? argument (Int32.ofNat role) (Int32.ofNat index) with
  | none =>
    have hmissed := (Capability.answer_of_missed hfound).1
    have hnone := (board.findByArguments?_eq_none_iff ..).1 hfound
    rw [hmissed]
    constructor
    · intro hone
      exact absurd hone (by decide)
    · rintro ⟨device, hmem, hsits⟩
      exact absurd ((hnamed device).2 hsits) (hnone device hmem)
  | some device =>
    obtain ⟨hnames, n, hn, -⟩ := (board.findByArguments?_eq_some_iff ..).1 hfound
    exact ⟨fun _ => ⟨device, List.mem_of_getElem? hn, (hnamed device).1 hnames⟩,
      fun _ => (Capability.answer_of_found hfound).1⟩

/-- Devices that share a seat are counted apart and probed as one. -/
theorem card_seats (board : Board) (kind : Kind) :
    (board.seats kind).toFinset.card ≤ board.count kind ∧
      ((board.seats kind).toFinset.card = board.count kind ↔ (board.seats kind).Nodup) := by
  rw [← board.length_seats]
  exact ⟨List.toFinset_card_le _, Multiset.toFinset_card_eq_card_iff_nodup⟩

/-- Every device is counted under its own kind and under no other. -/
theorem sum_count (board : Board) : (Kind.all.map board.count).sum = board.length := by
  induction board with
  | nil => rfl
  | cons device board ih =>
    have hown : (Kind.all.map fun kind => if device.place.kind == kind then 1 else 0).sum = 1 := by
      cases device.place.kind <;> rfl
    have hcons : count (device :: board) = fun kind =>
        count board kind + if device.place.kind == kind then 1 else 0 := by
      funext kind
      exact List.countP_cons
    rw [hcons, List.sum_map_add, ih, hown, List.length_cons]

end Board

namespace Capability

theorem count_answer_of_kind {board : Board} (hshort : board.length < 0x80000000)
    {argument : Int32} {kind : Kind} (h : Kind.ofArgument? argument = some kind)
    (role index : Int32) :
    (Query.count.answer board ⟨argument, role, index⟩).toInt = board.count kind := by
  have hle := board.count_le kind
  simp only [Query.answer, h]
  exact Int32.toInt_ofNat_of_lt (by omega)

/-- The answers over all kinds, by their codes, sum up to the length of the board. -/
theorem sum_count_answers {board : Board} (hshort : board.length < 0x80000000)
    (role index : Int32) :
    ((List.range 13).map fun code =>
      (Query.count.answer board ⟨Int32.ofNat code, role, index⟩).toInt).sum = board.length := by
  have hcodes : List.range 13 = Kind.all.map (·.code.toNat) := by decide
  have hanswers : ∀ kind : Kind,
      (Query.count.answer board ⟨Int32.ofNat kind.code.toNat, role, index⟩).toInt =
        (board.count kind : Int) := by
    intro kind
    apply count_answer_of_kind hshort
    cases kind <;> rfl
  rw [hcodes, List.map_map, ← board.sum_count, Nat.cast_list_sum, List.map_map]
  exact congrArg List.sum (List.map_congr_left fun kind _ => hanswers kind)

end Capability

/-- On a board of fewer than 2^31 devices, the roles and indices at which a kind is told to be
present are at most as many as the count of the kind, and as many exactly if no two devices of the
kind share role and index. A number that is no kind has count 0 and is present nowhere. The counts
of the kinds sum up to the number of devices that the machine lists. -/
theorem probing_against_counting {rig : Rig} {caller owner : Nat} {machine : Machine}
    (hm : rig.machines[owner]? = some machine)
    (hasked : ∀ query : Capability.Query, ∃ origin,
      rig.lookup caller query.number = some ⟨origin, .capability query owner⟩)
    (hshort : machine.devices.length < 0x80000000) :
    let ask (query : Capability.Query) (kind role index : Int32) :=
      (rig.invoke caller query.number ⟨kind, role, index⟩).answer
    let probed (kind : Int32) := Board.grid.filter fun seat =>
      ask .present kind (Int32.ofNat seat.1) (Int32.ofNat seat.2) = 1
    (∀ kind : Int32, 0 ≤ kind.toInt → kind.toInt ≤ 12 → ∀ role index,
      ((probed kind).card : Int) ≤ (ask .count kind role index).toInt ∧
      (((probed kind).card : Int) = (ask .count kind role index).toInt ↔
        machine.devices.Unshared kind)) ∧
    (∀ kind : Int32, ¬ (0 ≤ kind.toInt ∧ kind.toInt ≤ 12) → ∀ role index,
      ask .count kind role index = 0 ∧ ask .present kind role index = 0) ∧
    ∃ devices, (rig.step ⟨owner, .devices⟩).answer = .devices devices ∧
      ∀ role index, ((List.range 13).map fun code =>
        (ask .count (Int32.ofNat code) role index).toInt).sum = devices.length := by
  intro ask probed
  have hask : ∀ query k r i, ask query k r i = query.answer machine.devices ⟨k, r, i⟩ :=
    Rig.answer_of_asked hm hasked
  refine ⟨?_, ?_, machine.devices, ?_, ?_⟩
  · intro kind hlow hhigh role index
    obtain ⟨named, hnamed⟩ := Kind.exists_ofArgument? hlow hhigh
    have hseats : probed kind = (machine.devices.seats named).toFinset := by
      ext seat
      rw [Finset.mem_filter, List.mem_toFinset, hask]
      constructor
      · rintro ⟨hgrid, hpresent⟩
        exact (Board.present_iff_mem_seats _ hnamed hgrid).1 hpresent
      · intro hseat
        have hgrid := Board.mem_grid_of_mem_seats hseat
        exact ⟨hgrid, (Board.present_iff_mem_seats _ hnamed hgrid).2 hseat⟩
    obtain ⟨hle, heq⟩ := Board.card_seats machine.devices named
    rw [hask, Capability.count_answer_of_kind hshort hnamed, hseats,
      Board.unshared_iff_nodup_seats _ hnamed, ← heq]
    omega
  · intro kind hkind role index
    have hnone := Kind.ofArgument?_eq_none hkind
    have hmissed : Board.findByArguments? machine.devices kind role index = none := by
      rw [Board.findByArguments?_eq_none_iff]
      intro device _ hnamed
      exact hkind hnamed.codes.1
    rw [hask, hask]
    refine ⟨?_, (Capability.answer_of_missed hmissed).1⟩
    simp only [Capability.Query.answer, hnone]
  · rw [Rig.step_of_machine hm]
    rfl
  · intro role index
    simp only [hask]
    exact Capability.sum_count_answers hshort role index

/-- Two LEDs at one place, the first of them with further flags, and two buttons at two places. -/
def probedImage : List UInt8 :=
  crowdedImage ++ [2, 2, 0, 0, 3, 0, 0, 0, 2, 2, 255, 1, 4, 0, 0, 0]

/-- A runtime over them, and a machine that borrows its capability calls. -/
def probedRig : Rig :=
  Rig.after ⟨[{ platform := some 7 }, {}], [], some (.upTo .trace)⟩
    [⟨0, .setBoard (some probedImage)⟩, ⟨1, .registerCapability 0 7⟩]

/-- Probing tells fewer LEDs than counting, and as many buttons; kind 257 is nowhere, and all kinds
together are four devices. -/
theorem probing_against_counting_crowded :
    let ask (query : Capability.Query) (kind role index : Int32) :=
      (probedRig.invoke 1 query.number ⟨kind, role, index⟩).answer
    let probed (kind : Int32) := Board.grid.filter fun seat =>
      ask .present kind (Int32.ofNat seat.1) (Int32.ofNat seat.2) = 1
    (probed 1).card < 2 ∧ (probed 2).card = 2 ∧ ask .count 257 0 0 = 0 ∧
    ((List.range 13).map fun code => (ask .count (Int32.ofNat code) 0 0).toInt).sum = 4 := by
  intro ask probed
  have hm : probedRig.machines[0]? = some probedRig.machines[0] := rfl
  have hasked : ∀ query : Capability.Query, ∃ origin,
      probedRig.lookup 1 query.number = some ⟨origin, .capability query 0⟩ := by
    intro query
    cases query <;> exact ⟨_, rfl⟩
  obtain ⟨hkinds, hothers, devices, hdevices, hsum⟩ :=
    probing_against_counting hm hasked (by decide)
  obtain ⟨hle, hled⟩ := hkinds 1 (by decide) (by decide) 0 0
  obtain ⟨-, hbutton⟩ := hkinds 2 (by decide) (by decide) 0 0
  have htwo : (ask .count 1 0 0).toInt = 2 ∧ (ask .count 2 0 0).toInt = 2 := by decide
  have hshared : ¬ Board.Unshared probedRig.machines[0].devices 1 := by decide
  have hfewer : ((probed 1).card : Int) ≠ 2 := fun h => hshared (hled.1 (h.trans htwo.1.symm))
  have hsame : ((probed 2).card : Int) = 2 := (hbutton.2 (by decide)).trans htwo.2
  have hmost : ((probed 1).card : Int) ≤ 2 := hle.trans htwo.1.le
  have hlisted : devices.length = 4 := by
    obtain rfl : devices = _ := (Reply.devices.inj hdevices).symm
    rfl
  refine ⟨by omega, by omega, (hothers 257 (by decide) 0 0).1, ?_⟩
  rw [hsum, hlisted]
  rfl

end Switchboard
