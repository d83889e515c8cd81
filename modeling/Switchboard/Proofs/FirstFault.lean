import Switchboard.Proofs.GeneratedTable

/-!
# Sound lists and first faults

What can be wrong with a definition is said here without an order: each fault stands on its own,
against all definitions before it, and several can be there at once. The judgement goes through the
list and remembers the names and numbers that are taken. As long as nothing was wrong these are the
names and numbers of the definitions before, so it stops at the first definition that has a fault,
with the one of its faults that ranks first. Two numbers are the same whatever way they are written.
-/
namespace Switchboard

/-- Of the faults of one definition the one of least rank is reported. -/
def Fault.rank : Fault → Nat
  | badValue _ _ => 0
  | outside _ _ => 1
  | repeatedName _ => 2
  | repeatedNumber _ _ => 3

namespace Definition

/-- What is wrong with a definition that comes after others. -/
inductive Faulty (earlier : List Definition) (definition : Definition) : Fault → Prop
  | badValue {error : NumeralError} (hread : Numeral.read definition.value = .error error) :
      Faulty earlier definition (.badValue definition error)
  | outside {number : CallNumber} (hread : Numeral.read definition.value = .ok number)
      (hrange : number < 0x0100 ∨ 0x0fff < number) :
      Faulty earlier definition (.outside definition.name number)
  | repeatedName {other : Definition} (hother : other ∈ earlier)
      (hname : other.name = definition.name) :
      Faulty earlier definition (.repeatedName definition.name)
  | repeatedNumber {number : CallNumber} {other : Definition}
      (hread : Numeral.read definition.value = .ok number) (hother : other ∈ earlier)
      (hnumber : Numeral.read other.value = .ok number) :
      Faulty earlier definition (.repeatedNumber number definition.name)

/-- What is wrong with definition `i` of a list. -/
def FaultAt (definitions : List Definition) (i : Nat) (fault : Fault) : Prop :=
  ∃ definition, definitions[i]? = some definition ∧
    Faulty (definitions.take i) definition fault

/-- The fault of a list that is reported: no definition before has any, and none of the same
definition ranks before it. -/
def FirstFault (definitions : List Definition) (fault : Fault) : Prop :=
  ∃ i, FaultAt definitions i fault ∧ (∀ j < i, ∀ other, ¬ FaultAt definitions j other) ∧
    ∀ other, FaultAt definitions i other → fault.rank ≤ other.rank

variable {earlier definitions : List Definition} {definition : Definition} {names : List String}
  {taken numbers : List CallNumber} {number : CallNumber} {fault : Fault}

theorem Faulty.eq_of_rank {other : Fault} (h : Faulty earlier definition fault)
    (hother : Faulty earlier definition other) (hrank : fault.rank = other.rank) :
    fault = other := by
  cases h with
  | badValue hread =>
    cases hother with
    | badValue hagain =>
      cases hread.symm.trans hagain
      rfl
    | _ => cases hrank
  | outside hread =>
    cases hother with
    | outside hagain =>
      cases hread.symm.trans hagain
      rfl
    | _ => cases hrank
  | repeatedName =>
    cases hother with
    | repeatedName => rfl
    | _ => cases hrank
  | repeatedNumber hread =>
    cases hother with
    | repeatedNumber hagain =>
      cases hread.symm.trans hagain
      rfl
    | _ => cases hrank

theorem FirstFault.unique {other : Fault} (h : FirstFault definitions fault)
    (hother : FirstFault definitions other) : fault = other := by
  obtain ⟨i, hi, hfirst, hleast⟩ := h
  obtain ⟨j, hj, hfirst', hleast'⟩ := hother
  obtain rfl : i = j := by
    rcases Nat.lt_trichotomy i j with hlt | heq | hgt
    · exact absurd hi (hfirst' i hlt fault)
    · exact heq
    · exact absurd hj (hfirst j hgt other)
  obtain ⟨definition, hdefinition, hfaulty⟩ := hi
  obtain ⟨_, hagain, hfaulty'⟩ := hj
  cases hdefinition.symm.trans hagain
  exact hfaulty.eq_of_rank hfaulty' (Nat.le_antisymm (hleast other ⟨_, hagain, hfaulty'⟩)
    (hleast' fault ⟨_, hdefinition, hfaulty⟩))

/-- The names and numbers that are taken are those of the definitions before. -/
structure Taken (earlier : List Definition) (names : List String) (taken : List CallNumber) :
    Prop where
  name : ∀ name, name ∈ names ↔ ∃ other ∈ earlier, other.name = name
  number : ∀ number, number ∈ taken ↔ ∃ other ∈ earlier, Numeral.read other.value = .ok number

theorem taken_nil : Taken [] [] [] := ⟨by simp, by simp⟩

/-- One more definition takes its name and its number. -/
theorem Taken.snoc (h : Taken earlier names taken)
    (hread : Numeral.read definition.value = .ok number) :
    Taken (earlier ++ [definition]) (definition.name :: names) (number :: taken) := by
  constructor
  · intro name
    rw [List.mem_cons, h.name]
    simp only [List.mem_append, List.mem_singleton, or_and_right, exists_or, exists_eq_left]
    rw [or_comm, eq_comm (a := name)]
  · intro other
    rw [List.mem_cons, h.number]
    simp only [List.mem_append, List.mem_singleton, or_and_right, exists_or, exists_eq_left,
      hread, Except.ok.injEq]
    rw [or_comm, eq_comm (a := other)]

theorem not_faulty_of_judge (h : Taken earlier names taken)
    (hjudge : definition.judge names taken = .ok number) (fault : Fault) :
    ¬ Faulty earlier definition fault := by
  obtain ⟨hread, hrange, hname, hnumber⟩ := judge_eq_ok_iff.1 hjudge
  intro hfault
  cases hfault with
  | badValue hbad => cases hread.symm.trans hbad
  | outside hagain hout =>
    cases hread.symm.trans hagain
    exact hrange hout
  | repeatedName hother hsame => exact hname ((h.name _).2 ⟨_, hother, hsame⟩)
  | repeatedNumber hagain hother hsame =>
    cases hread.symm.trans hagain
    exact hnumber ((h.number _).2 ⟨_, hother, hsame⟩)

/-- The checks are made in the order of the ranks, and a check that is passed rules its fault
out. -/
theorem faulty_of_judge (h : Taken earlier names taken)
    (hjudge : definition.judge names taken = .error fault) :
    Faulty earlier definition fault ∧
      ∀ other, Faulty earlier definition other → fault.rank ≤ other.rank := by
  unfold judge at hjudge
  split at hjudge
  next error hread =>
    cases hjudge
    exact ⟨.badValue hread, fun _ _ => Nat.zero_le _⟩
  next number hread =>
    have hvalue : ∀ {other}, Faulty earlier definition other → 1 ≤ other.rank := by
      rintro _ (hbad | _ | _ | _)
      · cases hread.symm.trans hbad
      all_goals exact Nat.le_add_left 1 _
    split at hjudge
    next hout =>
      cases hjudge
      exact ⟨.outside hread hout, fun _ => hvalue⟩
    next hin =>
      have hrange : ∀ {other}, Faulty earlier definition other → 2 ≤ other.rank := by
        rintro _ (hbad | ⟨hagain, hout⟩ | _ | _)
        · cases hread.symm.trans hbad
        · cases hread.symm.trans hagain
          exact absurd hout hin
        all_goals exact Nat.le_add_left 2 _
      split at hjudge
      next hname =>
        cases hjudge
        obtain ⟨_, hother, hsame⟩ := (h.name _).1 hname
        exact ⟨.repeatedName hother hsame, fun _ => hrange⟩
      next hname =>
        have hfree : ∀ {other}, Faulty earlier definition other → 3 ≤ other.rank := by
          rintro _ (hbad | ⟨hagain, hout⟩ | ⟨hother, hsame⟩ | _)
          · cases hread.symm.trans hbad
          · cases hread.symm.trans hagain
            exact absurd hout hin
          · exact absurd ((h.name _).2 ⟨_, hother, hsame⟩) hname
          · exact Nat.le_refl 3
        split at hjudge
        next hnumber =>
          cases hjudge
          obtain ⟨_, hother, hsame⟩ := (h.number _).1 hnumber
          exact ⟨.repeatedNumber hread hother hsame, fun _ => hfree⟩
        · cases hjudge

theorem faultAt_length (earlier rest : List Definition) (definition : Definition) (fault : Fault) :
    FaultAt (earlier ++ definition :: rest) earlier.length fault ↔
      Faulty earlier definition fault := by
  simp [FaultAt]

theorem faultAt_append {i : Nat} (hi : i < earlier.length) (rest : List Definition)
    (fault : Fault) : FaultAt (earlier ++ rest) i fault ↔ FaultAt earlier i fault := by
  rw [FaultAt, FaultAt, List.getElem?_append_left hi,
    List.take_append_of_le_length (Nat.le_of_lt hi)]

/-- No definition of the list has a fault. -/
def Clean (definitions : List Definition) : Prop :=
  ∀ i < definitions.length, ∀ fault, ¬ FaultAt definitions i fault

theorem clean_nil : Clean [] := fun i hi => absurd hi (Nat.not_lt_zero i)

theorem Clean.snoc (hclean : Clean earlier) (h : Taken earlier names taken)
    (hjudge : definition.judge names taken = .ok number) : Clean (earlier ++ [definition]) := by
  intro i hi fault
  rw [List.length_append, List.length_singleton, Nat.lt_succ_iff_lt_or_eq] at hi
  rcases hi with hi | rfl
  · rw [faultAt_append hi]
    exact hclean i hi fault
  · rw [faultAt_length]
    exact not_faulty_of_judge h hjudge fault

theorem Clean.not_firstFault (hclean : Clean definitions) (fault : Fault) :
    ¬ FirstFault definitions fault := by
  rintro ⟨i, hfault, -⟩
  have hlt := hfault
  obtain ⟨definition, hdefinition, -⟩ := hlt
  exact hclean i (List.getElem?_eq_some_iff.1 hdefinition).1 fault hfault

/-- The definition that the judgement stops at is the first one with a fault. -/
theorem Clean.firstFault (hclean : Clean earlier) (h : Taken earlier names taken)
    (hjudge : definition.judge names taken = .error fault) (rest : List Definition) :
    FirstFault (earlier ++ definition :: rest) fault := by
  obtain ⟨hfaulty, hleast⟩ := faulty_of_judge h hjudge
  refine ⟨earlier.length, (faultAt_length ..).2 hfaulty, fun j hj other => ?_,
    fun other hother => hleast other ((faultAt_length ..).1 hother)⟩
  rw [faultAt_append hj]
  exact hclean j hj other

/-- Behind definitions that have no fault, the judgement ends with the first fault of the whole
list. -/
theorem judgeAll_eq_error_iff {rest : List Definition} (hclean : Clean earlier)
    (h : Taken earlier names taken) :
    judgeAll names taken rest = .error fault ↔ FirstFault (earlier ++ rest) fault := by
  induction rest generalizing earlier names taken with
  | nil =>
    rw [List.append_nil]
    refine iff_of_false (fun hjudged => ?_) (hclean.not_firstFault fault)
    rw [judgeAll] at hjudged
    cases hjudged
  | cons definition rest ih =>
    rw [judgeAll]
    cases hjudge : definition.judge names taken with
    | error found =>
      have hfirst := hclean.firstFault h hjudge rest
      constructor
      · intro herror
        cases herror
        exact hfirst
      · intro hfault
        rw [hfault.unique hfirst]
        rfl
    | ok number =>
      obtain ⟨hread, -⟩ := judge_eq_ok_iff.1 hjudge
      have hothers : (judgeAll (definition.name :: names) (number :: taken) rest >>= fun others =>
          pure (number :: others)) = .error fault ↔
            judgeAll (definition.name :: names) (number :: taken) rest = .error fault := by
        cases judgeAll (definition.name :: names) (number :: taken) rest with
        | error other => exact Iff.rfl
        | ok others =>
          constructor
          · intro hok
            cases hok
          · intro hok
            cases hok
      have hrest := ih (hclean.snoc h hjudge) (h.snoc hread)
      rw [List.append_assoc, List.singleton_append] at hrest
      exact hothers.trans hrest

/-- Numbers that are accepted are in the standard range. -/
theorem range_of_judgeAll (h : judgeAll names taken definitions = .ok numbers) :
    ∀ number ∈ numbers, 0x0100 ≤ number ∧ number ≤ 0x0fff := by
  induction definitions generalizing names taken numbers with
  | nil =>
    cases h
    exact nofun
  | cons definition rest ih =>
    obtain ⟨number, others, hjudge, hrest, rfl⟩ := judgeAll_cons_eq_ok_iff.1 h
    obtain ⟨-, hrange, -⟩ := judge_eq_ok_iff.1 hjudge
    rw [not_or, UInt16.not_lt, UInt16.not_lt] at hrange
    intro other hother
    rcases List.mem_cons.1 hother with rfl | hother
    · exact hrange
    · exact ih hrest other hother

theorem judgeAll_of_sound (h : Sound names taken definitions numbers)
    (hrange : ∀ number ∈ numbers, 0x0100 ≤ number ∧ number ≤ 0x0fff) :
    judgeAll names taken definitions = .ok numbers := by
  induction definitions generalizing names taken numbers with
  | nil =>
    cases h.read
    rfl
  | cons definition rest ih =>
    obtain ⟨hread, hnames, hnumbers, hnamesFree, hnumbersFree⟩ := h
    obtain _ | ⟨hnumber, hothers⟩ := hread
    rename_i number others
    rw [List.map_cons, List.nodup_cons] at hnames
    rw [List.nodup_cons] at hnumbers
    have hin := hrange number List.mem_cons_self
    rw [← UInt16.not_lt, ← UInt16.not_lt, ← not_or] at hin
    refine judgeAll_cons_eq_ok_iff.2 ⟨number, others, judge_eq_ok_iff.2 ⟨hnumber, hin,
      hnamesFree definition List.mem_cons_self, hnumbersFree number List.mem_cons_self⟩,
      ih ⟨hothers, hnames.2, hnumbers.2, fun other hother hmem => ?_, fun other hother hmem => ?_⟩
        (fun other hother => hrange other (List.mem_cons_of_mem _ hother)), rfl⟩
    · rcases List.mem_cons.1 hmem with hsame | hmem
      · exact hnames.1 (hsame ▸ List.mem_map_of_mem hother)
      · exact hnamesFree other (List.mem_cons_of_mem _ hother) hmem
    · rcases List.mem_cons.1 hmem with rfl | hmem
      · exact hnumbers.1 hother
      · exact hnumbersFree other (List.mem_cons_of_mem _ hother) hmem

end Definition

/-- A list is accepted just if every value is a numeral in the standard range, no name stands twice
and no number stands twice; its numbers are those of the values, in order. Otherwise the first
definition with a fault is reported, with the first of its faults in the order of the ranks. -/
theorem validate_first_fault (definitions : List Definition) :
    (∀ numbers, Definition.validate definitions = .ok numbers ↔
      List.Forall₂ (fun definition number => Numeral.read definition.value = .ok number)
        definitions numbers ∧
      (∀ number ∈ numbers, 0x0100 ≤ number ∧ number ≤ 0x0fff) ∧
      (definitions.map (·.name)).Nodup ∧ numbers.Nodup) ∧
    (∀ fault, Definition.validate definitions = .error fault ↔
      ∃ i, Definition.FaultAt definitions i fault ∧
        (∀ j < i, ∀ other, ¬ Definition.FaultAt definitions j other) ∧
        ∀ other, Definition.FaultAt definitions i other → fault.rank ≤ other.rank) := by
  constructor
  · intro numbers
    constructor
    · intro h
      have hsound := Definition.sound_of_judgeAll h
      exact ⟨hsound.read, Definition.range_of_judgeAll h, hsound.namesApart, hsound.numbersApart⟩
    · rintro ⟨hread, hrange, hnames, hnumbers⟩
      exact Definition.judgeAll_of_sound ⟨hread, hnames, hnumbers, by simp, by simp⟩ hrange
  · intro fault
    rw [← List.nil_append definitions]
    exact Definition.judgeAll_eq_error_iff Definition.clean_nil Definition.taken_nil

/-- A second definition repeats the first one's name, number or both, whatever the spelling, and the
value of the third is no numeral. -/
example :
    let judged (second : Definition) :=
      (Definition.validate [⟨"RESET", "0x100", ""⟩, second, ⟨"HALT", "-1", ""⟩]).mapError
        Fault.message
    judged ⟨"RESET", " 01_00", ""⟩ = .error "Duplicated SYS name RESET." ∧
    judged ⟨"START", " 01_00", ""⟩ = .error "Duplicated SYS value 0x0100 (START)." := by
  decide

end Switchboard
