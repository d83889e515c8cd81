import Switchboard.Proofs.CapabilityCall
import Switchboard.Proofs.Consulting
import Switchboard.Proofs.SetupOrder

/-!
# Boards that grow

An image behind an image is a board behind a board. The search stops at the first device, so what
the front board has at a place hides what the back board has there, and a place that the front
board does not have is looked for on the back board. A call sees of a board no more than the
device that its arguments name, so it does with the longer board what it does with one of the two.
Only counting looks at all devices.
-/
namespace Switchboard

namespace Board

/-- The device that three call arguments name, with its position on the board. -/
def locateByArguments? (board : Board) (kind role index : Int32) : Option (Nat × Device) := do
  board.locate? (← Place.ofArguments? kind role index)

/-- What is found on a board, as it is found when the board stands behind `offset` devices. -/
def behind (offset : Nat) (found : Nat × Device) : Nat × Device := (offset + found.1, found.2)

theorem encode_append (front back : Board) :
    encode (front ++ back) = encode front ++ encode back := List.flatMap_append

theorem decode_append {first second : List UInt8} {front back : Board}
    (hfirst : decode first = .ok front) (hsecond : decode second = .ok back) :
    decode (first ++ second) = .ok (front ++ back) := by
  rw [decode_eq_ok_iff] at hfirst hsecond ⊢
  rw [encode_append, hfirst, hsecond]

theorem locate?_append (front back : Board) (place : Place) :
    (front ++ back).locate? place =
      (front.locate? place).or ((back.locate? place).map (behind front.length)) := by
  unfold locate?
  simp only [Option.bind_eq_bind, Option.pure_def, List.findIdx?_append]
  cases hfront : List.findIdx? (·.sitsAt place) front with
  | some position =>
    obtain ⟨hlt, -⟩ := List.findIdx?_eq_some_iff_getElem.1 hfront
    rw [Option.some_or, Option.bind_some, Option.bind_some, List.getElem?_append_left hlt,
      List.getElem?_eq_getElem hlt]
    rfl
  | none =>
    rw [Option.none_or, Option.bind_none, Option.none_or]
    cases hback : List.findIdx? (·.sitsAt place) back with
    | none => rfl
    | some position =>
      rw [Option.map_some, Option.bind_some, Option.bind_some, Nat.add_comm position,
        List.getElem?_append_right (Nat.le_add_right _ _), Nat.add_sub_cancel_left]
      cases back[position]? <;> rfl

theorem locateByArguments?_append (front back : Board) (kind role index : Int32) :
    (front ++ back).locateByArguments? kind role index =
      (front.locateByArguments? kind role index).or
        ((back.locateByArguments? kind role index).map (behind front.length)) := by
  unfold locateByArguments?
  cases Place.ofArguments? kind role index with
  | none => rfl
  | some place => exact locate?_append front back place

/-- What is found is what is located, without its position. -/
theorem find?_eq_locate? (board : Board) (place : Place) :
    board.find? place = (board.locate? place).map (·.2) := by
  rw [find?, List.find?_eq_bind_findIdx?_getElem?]
  unfold locate?
  cases List.findIdx? (·.sitsAt place) board with
  | none => rfl
  | some position =>
    simp only [Option.bind_eq_bind, Option.bind_some]
    cases board[position]? <;> rfl

theorem findByArguments?_eq_locateByArguments? (board : Board) (kind role index : Int32) :
    board.findByArguments? kind role index =
      (board.locateByArguments? kind role index).map (·.2) := by
  unfold findByArguments? locateByArguments?
  cases Place.ofArguments? kind role index with
  | none => rfl
  | some place => exact find?_eq_locate? board place

theorem findByArguments?_append (front back : Board) (kind role index : Int32) :
    (front ++ back).findByArguments? kind role index =
      (front.findByArguments? kind role index).or (back.findByArguments? kind role index) := by
  unfold findByArguments?
  cases Place.ofArguments? kind role index with
  | none => rfl
  | some place => exact List.find?_append

theorem count_append (front back : Board) (kind : Kind) :
    (front ++ back).count kind = front.count kind + back.count kind := List.countP_append

theorem count_le (board : Board) (kind : Kind) : board.count kind ≤ board.length :=
  List.countP_le_length

end Board

/-- Boards on which three call arguments name one device are one board to an LED command. -/
theorem Led.locate_congr {one other : Board} {target : Led.Target}
    (h : one.findByArguments? target.kind target.role target.index =
      other.findByArguments? target.kind target.role target.index) :
    Led.locate one target = Led.locate other target := by
  unfold Led.locate
  rw [h]

theorem Capability.Query.answer_congr {query : Query} (hquery : query ≠ .count)
    {one other : Board} {arguments : Arguments}
    (h : one.findByArguments? arguments.first arguments.second arguments.third =
      other.findByArguments? arguments.first arguments.second arguments.third) :
    query.answer one arguments = query.answer other arguments := by
  unfold answer
  rw [h]
  cases query with
  | count => exact absurd rfl hquery
  | _ => rfl

/-- The counts of two boards add up as numbers where all their devices can be counted. -/
theorem Capability.count_append {front back : Board} (h : front.length + back.length < 0x80000000)
    (arguments : Arguments) :
    (Query.count.answer (front ++ back) arguments).toInt =
      (Query.count.answer front arguments).toInt + (Query.count.answer back arguments).toInt := by
  simp only [Query.answer]
  cases Kind.ofArgument? arguments.first with
  | none => rfl
  | some kind =>
    have hfront := front.count_le kind
    have hback := back.count_le kind
    show (Int32.ofNat ((front ++ back).count kind)).toInt = (Int32.ofNat (front.count kind)).toInt +
      (Int32.ofNat (back.count kind)).toInt
    rw [Board.count_append, Int32.toInt_ofNat_of_lt (by omega), Int32.toInt_ofNat_of_lt (by omega),
      Int32.toInt_ofNat_of_lt (by omega)]
    omega

namespace Rig

/-- The rig in which a machine has another board. -/
def withBoard (rig : Rig) (self : Nat) (board : Board) : Rig :=
  rig.rewire self (some board) ((rig.machines[self]?).bind (·.bank))

section WithBoard

variable {rig : Rig} {self : Nat} {found : Machine} (hm : rig.machines[self]? = some found)

include hm in
theorem withBoard_of_machine (board : Board) :
    rig.withBoard self board = rig.putMachine self { found with board := some board } := by
  rw [withBoard, rewire_of_machine _ _ hm, hm]
  rfl

include hm in
theorem withBoard_machine (board : Board) :
    (rig.withBoard self board).machines[self]? = some { found with board := some board } := by
  rw [withBoard_of_machine hm]
  exact putMachine_get hm _

include hm in
theorem withBoard_withBoard (one other : Board) :
    (rig.withBoard self one).withBoard self other = rig.withBoard self other := by
  rw [withBoard_of_machine (withBoard_machine hm one), withBoard_of_machine hm,
    withBoard_of_machine hm, putMachine_putMachine]

end WithBoard

theorem putBank_withBoard (rig : Rig) (self : Nat) (board : Board) (position : Nat)
    (bank : PinBank) :
    (rig.putBank position bank).withBoard self board =
      (rig.withBoard self board).putBank position bank := rfl

theorem registered_withBoard (rig : Rig) (self : Nat) (board : Board) (i : Nat) :
    (rig.withBoard self board).registered i = rig.registered i := by
  rw [registered, registered, withBoard, rewire, List.getElem?_modify]
  cases hi : rig.machines[i]? with
  | none => rfl
  | some machine =>
    by_cases hself : self = i
    · simp only [if_pos hself]
      rfl
    · simp only [if_neg hself]
      rfl

theorem lookup_withBoard (rig : Rig) (self : Nat) (board : Board) :
    (rig.withBoard self board).lookup = rig.lookup := by
  funext i number
  exact lookup_rewire rig self _ _ i number

/-- A good image is installed as its board. -/
theorem step_setBoard_withBoard (rig : Rig) (self : Nat) {image : List UInt8} {board : Board}
    (h : Board.decode image = .ok board) :
    (rig.step ⟨self, .setBoard (some image)⟩).rig = rig.withBoard self board := by
  have hsets : Request.setsUp rig.banks.length (.setBoard (some image)) = true := by
    rw [Request.setsUp, h]
    rfl
  have himage : Board.ofImage? (some image) = some board := by
    rw [Board.ofImage?, Option.bind_some, h]
    rfl
  have hstep := step_setBoard_rewire ((rig.machines[self]?).bind (·.board))
    ((rig.machines[self]?).bind (·.bank)) rig self hsets
  rw [rewire_self, himage] at hstep
  exact hstep

/-- The machine on whose board a step looks for one device, and the arguments that name it. -/
def sought? (rig : Rig) (step : Step) : Option (Nat × Led.Target) :=
  match rig.ledWork? step with
  | some (owner, command) => some (owner, command.target)
  | none => do
    let (number, arguments) ← step.request.call?
    let entry ← rig.lookup step.machine number
    match entry.handler with
    | .capability .count _ => none
    | .capability _ owner => some (owner, ⟨arguments.first, arguments.second, arguments.third⟩)
    | _ => none

theorem sought?_cases {rig : Rig} {step : Step} {owner : Nat} {target : Led.Target}
    (h : rig.sought? step = some (owner, target)) :
    (∃ command, rig.ledWork? step = some (owner, command) ∧ command.target = target) ∨
    ∃ number arguments origin query, step.request.call? = some (number, arguments) ∧
      rig.lookup step.machine number = some ⟨origin, .capability query owner⟩ ∧
      query ≠ .count ∧ ⟨arguments.first, arguments.second, arguments.third⟩ = target := by
  unfold sought? at h
  split at h
  next command hwork =>
    cases h
    exact Or.inl ⟨command, hwork, rfl⟩
  next =>
    obtain ⟨⟨number, arguments⟩, hcall, h⟩ := Option.bind_eq_some_iff.1 h
    obtain ⟨⟨origin, handler⟩, hlookup, h⟩ := Option.bind_eq_some_iff.1 h
    cases handler with
    | capability query source =>
      cases query with
      | count => cases h
      | _ =>
        cases h
        exact Or.inr ⟨number, arguments, origin, _, hcall, hlookup, by decide, rfl⟩
    | _ => cases h

/-- What a step looks for is decided by the registries. -/
theorem sought?_congr {one other : Rig} (h : one.lookup = other.lookup) :
    one.sought? = other.sought? := by
  funext step
  simp only [sought?, ledWork?, h]

section Look

variable {rig : Rig} {self : Nat} {found : Machine} (hm : rig.machines[self]? = some found)
  {one other : Board}

include hm in
/-- A command whose target is located alike on two boards does the same over either. -/
theorem led_withBoard {command : Led.Command}
    (h : Led.locate one command.target = Led.locate other command.target) :
    let turn := (rig.withBoard self one).led self command
    (rig.withBoard self other).led self command =
      ⟨turn.rig.withBoard self other, turn.answer, turn.effects⟩ := by
  have hbank : ∀ board, (rig.withBoard self board).bankOf? { found with board := some board } =
      rig.bankOf? found := by
    intro board
    rw [withBoard_of_machine hm]
    rfl
  have hdevices : ∀ board : Board, ({ found with board := some board } : Machine).devices = board :=
    fun _ => rfl
  intro turn
  simp only [turn, led, withBoard_machine hm, hbank, hdevices, perform_eq, ← h]
  cases rig.bankOf? found with
  | none => simp only [withBoard_withBoard hm]
  | some bank =>
    cases hlocate : Led.locate one command.target with
    | error error => simp only [Except.map, withBoard_withBoard hm]
    | ok device => simp only [Except.map, putBank_withBoard, withBoard_withBoard hm]

include hm in
/-- A step that looks for a device does the same over boards that have the same one there. -/
theorem step_withBoard {step : Step} {target : Led.Target}
    (h : rig.sought? step = some (self, target))
    (hsame : one.findByArguments? target.kind target.role target.index =
      other.findByArguments? target.kind target.role target.index) :
    let turn := (rig.withBoard self one).step step
    (rig.withBoard self other).step step =
      ⟨turn.rig.withBoard self other, turn.answer, turn.effects⟩ := by
  intro turn
  rcases sought?_cases h with ⟨command, hwork, rfl⟩ |
    ⟨number, arguments, origin, query, hc, hl, hquery, rfl⟩
  · have hstep : ∀ board, (rig.withBoard self board).step step =
        ((rig.withBoard self board).led self command).finish step.ledForm step.ledNotes :=
      fun board => step_of_ledWork (withBoard_machine hm board)
        (ledWork?_congr (lookup_withBoard rig self board) ▸ hwork)
    simp only [turn, hstep]
    rw [led_withBoard hm (Led.locate_congr hsame)]
    rfl
  · have hstep : ∀ board, (rig.withBoard self board).step step =
        ⟨rig.withBoard self board, .value (query.answer board arguments), []⟩ := by
      intro board
      have hdevices : (rig.withBoard self board).devices self = board := by
        simp only [devices, withBoard_machine hm]
        rfl
      rw [step_of_call hc (lookup_withBoard rig self board ▸ hl)]
      simp only [dispatch, hdevices]
    simp only [turn, hstep, withBoard_withBoard hm, Capability.Query.answer_congr hquery hsame]

end Look

/-- Looking for a device changes no machine. -/
theorem machines_of_sought {rig : Rig} {step : Step} {owner : Nat} {target : Led.Target}
    (h : rig.sought? step = some (owner, target)) :
    (rig.step step).rig.machines = rig.machines := by
  rcases sought?_cases h with ⟨command, hwork, -⟩ | ⟨number, arguments, origin, query, hc, hl, -, -⟩
  · rw [step_rig_of_ledWork hwork, led_machines]
  · rw [step_of_call hc hl]
    rfl

/-- In whatever state the banks are, the step does with one board of a machine what it does with
the other, and it changes no machine. -/
def Overlooks (rig : Rig) (self : Nat) (one other : Board) (step : Step) : Prop :=
  ∀ banks,
    let start := { rig with banks := banks }
    let turn := (start.withBoard self one).step step
    turn.rig.machines = (rig.withBoard self one).machines ∧
      (start.withBoard self other).step step =
        ⟨turn.rig.withBoard self other, turn.answer, turn.effects⟩

/-- Steps that overlook what two boards differ in report the same over both, and leave the same
rigs apart from the board. -/
theorem run_of_overlooks {rig : Rig} {self : Nat} {found : Machine}
    (hm : rig.machines[self]? = some found) {one other : Board} {steps : List Step}
    (h : ∀ step ∈ steps, rig.Overlooks self one other step) :
    (rig.withBoard self one).run steps = (rig.withBoard self other).run steps ∧
      (rig.withBoard self other).after steps =
        ((rig.withBoard self one).after steps).withBoard self other := by
  induction steps generalizing rig with
  | nil => exact ⟨rfl, (withBoard_withBoard hm one other).symm⟩
  | cons step steps ih =>
    let turn := (rig.withBoard self one).step step
    obtain ⟨hmachines, hstep⟩ : turn.rig.machines = (rig.withBoard self one).machines ∧
        (rig.withBoard self other).step step =
          ⟨turn.rig.withBoard self other, turn.answer, turn.effects⟩ :=
      h step List.mem_cons_self rig.banks
    -- the step moves banks at most, so the rest of the run starts from the same two boards
    let next : Rig := { rig with banks := turn.rig.banks }
    have hfound : next.machines[self]? = some found := hm
    have hfilter : turn.rig.filter = rig.filter := (rig.withBoard self one).step_filter step
    have hnext : turn.rig = next.withBoard self one := by
      show Rig.mk turn.rig.machines turn.rig.banks turn.rig.filter = _
      rw [hmachines, hfilter]
      rfl
    have hboard : turn.rig.withBoard self other = next.withBoard self other := by
      rw [hnext]
      exact withBoard_withBoard hfound one other
    have hrest : ∀ later ∈ steps, next.Overlooks self one other later :=
      fun later hlater => h later (List.mem_cons_of_mem _ hlater)
    obtain ⟨hrun, hafter⟩ := ih hfound hrest
    rw [← hnext, ← hboard] at hrun hafter
    rw [run, run, after_cons, after_cons, hstep, registered_withBoard]
    exact ⟨congrArg _ hrun, hafter⟩

/-- Steps that look for devices report the same over boards that have the same ones there. -/
theorem run_withBoard {rig : Rig} {self : Nat} {found : Machine}
    (hm : rig.machines[self]? = some found) {one other : Board} {steps : List Step}
    (h : ∀ step ∈ steps, ∃ target, rig.sought? step = some (self, target) ∧
      one.findByArguments? target.kind target.role target.index =
        other.findByArguments? target.kind target.role target.index) :
    (rig.withBoard self one).run steps = (rig.withBoard self other).run steps := by
  refine (run_of_overlooks hm fun step hstep banks => ?_).1
  obtain ⟨target, hsought, hsame⟩ := h step hstep
  let start : Rig := { rig with banks := banks }
  have hfound : start.machines[self]? = some found := hm
  have hlookup : (start.withBoard self one).lookup = rig.lookup := lookup_withBoard start self one
  have hstill : start.sought? step = some (self, target) := hsought
  exact ⟨machines_of_sought (sought?_congr hlookup ▸ hsought), step_withBoard hfound hstill hsame⟩

end Rig

/-- The requests that tell the position of a device. -/
def Request.finds : Request → Bool
  | .find _ _ _ => true
  | .findDefault _ _ => true
  | _ => false

/-- The first reply, or where it tells of no device the second one, behind `offset` devices. -/
def Reply.orBehind (offset : Nat) : Reply → Reply → Reply
  | .nothing, .found position device => .found (offset + position) device
  | .nothing, other => other
  | first, _ => first

theorem Machine.find_append (machine : Machine) (front back : Board) (kind role index : UInt8) :
    ({ machine with board := some (front ++ back) } : Machine).find kind role index =
      Reply.orBehind front.length
        (({ machine with board := some front } : Machine).find kind role index)
        (({ machine with board := some back } : Machine).find kind role index) := by
  have hdevices : ∀ board : Board,
      ({ machine with board := some board } : Machine).devices = board := fun _ => rfl
  simp only [find, hdevices]
  cases Place.ofCodes kind role index with
  | error error => rfl
  | ok place =>
    simp only [Board.locate?_append]
    cases front.locate? place with
    | some found => rfl
    | none => cases back.locate? place <;> rfl

namespace Rig

theorem step_finds_append {rig : Rig} {self : Nat} {found : Machine}
    (hm : rig.machines[self]? = some found) (front back : Board) {request : Request}
    (h : request.finds = true) :
    ((rig.withBoard self (front ++ back)).step ⟨self, request⟩).answer =
      Reply.orBehind front.length ((rig.withBoard self front).step ⟨self, request⟩).answer
        ((rig.withBoard self back).step ⟨self, request⟩).answer := by
  have hstep : ∀ board, (rig.withBoard self board).step ⟨self, request⟩ =
      (rig.withBoard self board).serve self { found with board := some board } request :=
    fun board => step_of_machine (withBoard_machine hm board) request
  rw [hstep, hstep, hstep]
  cases request with
  | find kind role index => exact found.find_append front back kind role index
  | findDefault kind role => exact found.find_append front back kind role 0
  | _ => cases h

end Rig

/-- An image behind another one is a board behind another one. What the front board has is found
there as before, what it does not have is found as on the back board, further down, by its place and
by three call arguments alike. Calls and
commands that look for devices of the front board are answered, and ask the banks, as over the front
board alone; those that look for devices it does not have, as over the back board alone. The counts
of the two boards add up. -/
theorem board_growth {first second : List UInt8} {front back : Board}
    (hfirst : Board.decode first = .ok front) (hsecond : Board.decode second = .ok back) (rig : Rig)
    {self : Nat} (hself : self < rig.machines.length) :
    let fitted (image : List UInt8) := (rig.step ⟨self, .setBoard (some image)⟩).rig
    let has (board : Board) (target : Led.Target) :=
      (board.locateByArguments? target.kind target.role target.index).isSome
    Board.decode (first ++ second) = .ok (front ++ back) ∧
    (∀ place, (front ++ back).locate? place =
      (front.locate? place).or ((back.locate? place).map (Board.behind front.length))) ∧
    (∀ kind role index,
      (front ++ back).findByArguments? kind role index =
        (front.findByArguments? kind role index).or (back.findByArguments? kind role index) ∧
      (front ++ back).locateByArguments? kind role index =
        (front.locateByArguments? kind role index).or
          ((back.locateByArguments? kind role index).map (Board.behind front.length))) ∧
    (∀ request, request.finds = true → ((fitted (first ++ second)).step ⟨self, request⟩).answer =
      Reply.orBehind front.length ((fitted first).step ⟨self, request⟩).answer
        ((fitted second).step ⟨self, request⟩).answer) ∧
    (∀ steps, (∀ step ∈ steps, ∃ target, rig.sought? step = some (self, target) ∧
      has front target = true) →
        (fitted (first ++ second)).run steps = (fitted first).run steps) ∧
    (∀ steps, (∀ step ∈ steps, ∃ target, rig.sought? step = some (self, target) ∧
      has front target = false) →
        (fitted (first ++ second)).run steps = (fitted second).run steps) ∧
    (∀ kind, (front ++ back).count kind = front.count kind + back.count kind) ∧
    (∀ machine number origin arguments,
      rig.lookup machine number = some ⟨origin, .capability .count self⟩ →
      front.length + back.length < 0x80000000 →
      let ask (image : List UInt8) := ((fitted image).invoke machine number arguments).answer
      (ask (first ++ second)).toInt = (ask first).toInt + (ask second).toInt) := by
  intro fitted has
  have hm := List.getElem?_eq_getElem hself
  have hboth := Board.decode_append hfirst hsecond
  have hfront : fitted first = rig.withBoard self front := rig.step_setBoard_withBoard self hfirst
  have hback : fitted second = rig.withBoard self back :=
    rig.step_setBoard_withBoard self hsecond
  have hwhole : fitted (first ++ second) = rig.withBoard self (front ++ back) :=
    rig.step_setBoard_withBoard self hboth
  have hfound : ∀ (board : Board) (target : Led.Target),
      (board.findByArguments? target.kind target.role target.index).isSome = has board target := by
    intro board target
    rw [Board.findByArguments?_eq_locateByArguments?, Option.isSome_map]
  refine ⟨hboth, front.locate?_append back, fun kind role index =>
    ⟨front.findByArguments?_append back kind role index,
      front.locateByArguments?_append back kind role index⟩, ?_, ?_, ?_, front.count_append back,
    ?_⟩
  · intro request hrequest
    rw [hwhole, hfront, hback]
    exact Rig.step_finds_append hm front back hrequest
  · intro steps hsteps
    rw [hwhole, hfront]
    refine Rig.run_withBoard hm fun step hstep => ?_
    obtain ⟨target, hsought, hhas⟩ := hsteps step hstep
    refine ⟨target, hsought, ?_⟩
    rw [Board.findByArguments?_append, Option.or_of_isSome (hfound front target ▸ hhas)]
  · intro steps hsteps
    rw [hwhole, hback]
    refine Rig.run_withBoard hm fun step hstep => ?_
    obtain ⟨target, hsought, hhas⟩ := hsteps step hstep
    have hnone := Option.isNone_iff_eq_none.1
      (Option.isSome_eq_false_iff.1 ((hfound front target).trans hhas))
    refine ⟨target, hsought, ?_⟩
    rw [Board.findByArguments?_append, hnone, Option.none_or]
  · intro machine number origin arguments hl hlength ask
    have hask : ∀ board, ((rig.withBoard self board).invoke machine number arguments).answer =
        Capability.Query.count.answer board arguments := by
      intro board
      rw [Rig.invoke_of_capability (rig.lookup_withBoard self board ▸ hl)
        (Rig.withBoard_machine hm board)]
      rfl
    simp only [ask, hwhole, hfront, hback, hask]
    exact Capability.count_append hlength arguments

/-- An LED at a place of the crowded board, and one at a place of its own. -/
def addedImage : List UInt8 := [1, 2, 1, 0, 5, 0, 0, 0, 1, 1, 0, 0, 6, 0, 0, 0]

/-- The crowded board keeps its LEDs, the first of which hides the first one added, and the second
one added is found in position 3. -/
theorem board_growth_crowded :
    let fitted (image : List UInt8) :=
      (crowdedRig.step ⟨0, .setBoard (some image)⟩).rig
    let kept : List Step := [⟨0, .led ⟨.toggle, ⟨1, 2, 257⟩⟩⟩, ⟨0, .invoke .ledOn ⟨1, 2, 1⟩⟩,
      ⟨0, .tryInvoke .capHandle ⟨1, 2, 1⟩⟩]
    let added : List Step := [⟨0, .invoke .ledSet ⟨1, 1, 1⟩⟩, ⟨0, .invoke .capFlags ⟨1, 1, 0⟩⟩]
    (fitted (crowdedImage ++ addedImage)).run kept = (fitted crowdedImage).run kept ∧
    (fitted (crowdedImage ++ addedImage)).run added = (fitted addedImage).run added ∧
    ((fitted (crowdedImage ++ addedImage)).step ⟨0, .find 1 1 0⟩).answer =
      .found 3 ⟨⟨.led, .status, 0⟩, ⟨0⟩, 6⟩ ∧
    ((fitted (crowdedImage ++ addedImage)).invoke 0 .capCount ⟨1, 0, 0⟩).answer.toInt = 4 := by
  intro fitted kept added
  have hcrowded : Board.decode crowdedImage = .ok _ := rfl
  have hextra : Board.decode addedImage = .ok _ := rfl
  have hself : 0 < crowdedRig.machines.length := by decide
  obtain ⟨-, -, -, hfinds, hkept, hadded, -, hcount⟩ :=
    board_growth hcrowded hextra crowdedRig hself
  refine ⟨hkept kept ?_, hadded added ?_, (hfinds (.find 1 1 0) rfl).trans (by decide),
    (hcount 0 .capCount ⟨0, 5⟩ ⟨1, 0, 0⟩ (by decide) (by decide)).trans (by decide)⟩
  · simp only [kept, List.forall_mem_cons]
    exact ⟨⟨⟨1, 2, 257⟩, by decide, by decide⟩, ⟨⟨1, 2, 1⟩, by decide, by decide⟩,
      ⟨⟨1, 2, 1⟩, by decide, by decide⟩, fun _ hstep => absurd hstep List.not_mem_nil⟩
  · simp only [added, List.forall_mem_cons]
    exact ⟨⟨⟨1, 1, 0⟩, by decide, by decide⟩, ⟨⟨1, 1, 0⟩, by decide, by decide⟩,
      fun _ hstep => absurd hstep List.not_mem_nil⟩

end Switchboard
