import Switchboard.Proofs.AcceptedImage

/-!
# Refused images

Why bytes hold no board is said here without decoding them. The length of an image is judged before
its contents, then record after record, and in a record the kind before the role, so the first
fault in this order is the one that is reported. A record alone is judged like an image of one
record, and only bytes that are no whole record are too short.
-/
namespace Switchboard

/-- What is wrong with a record that begins with two bytes: its kind, whatever the role is, or only
its role. -/
inductive RecordFault (kind role : UInt8) : ImageError → Prop
  | kind (h : 12 < kind) : RecordFault kind role (.unknownKind kind)
  | role (hkind : kind ≤ 12) (h : 5 < role) : RecordFault kind role (.unknownRole role)

/-- What is wrong with record `n`. -/
def FaultAt (image : List UInt8) (n : Nat) (error : ImageError) : Prop :=
  RecordFault (recordByte image n 0) (recordByte image n 1) error

/-- Why an image is refused: it is no row of whole records, or a record is faulty and none before
it is. -/
inductive Refused (image : List UInt8) : ImageError → Prop
  | trailing (h : image.length % 8 ≠ 0) : Refused image (.trailingBytes image.length)
  | record {n : Nat} {error : ImageError} (hwhole : image.length % 8 = 0)
      (hn : n < image.length / 8) (hfault : FaultAt image n error)
      (hfirst : ∀ j < n, ∀ other, ¬ FaultAt image j other) : Refused image error

theorem Kind.ofCode?_eq_none_iff (code : UInt8) : ofCode? code = none ↔ 12 < code := by
  rw [ofCode?, List.getElem?_eq_none_iff, UInt8.lt_iff_toNat_lt]
  rfl

theorem Role.ofCode?_eq_none_iff (code : UInt8) : ofCode? code = none ↔ 5 < code := by
  rw [ofCode?, List.getElem?_eq_none_iff, UInt8.lt_iff_toNat_lt]
  rfl

namespace Device

theorem ofRecord_eq_error_iff (b0 b1 b2 b3 b4 b5 b6 b7 : UInt8) (error : ImageError) :
    ofRecord b0 b1 b2 b3 b4 b5 b6 b7 = .error error ↔ RecordFault b0 b1 error := by
  constructor
  · intro h
    unfold ofRecord at h
    split at h
    · rename_i hkind
      cases h
      exact .kind ((Kind.ofCode?_eq_none_iff b0).1 hkind)
    · rename_i kind hkind hrole
      cases h
      rw [Kind.ofCode?_eq_some_iff] at hkind
      exact .role (hkind ▸ kind.code_le) ((Role.ofCode?_eq_none_iff b1).1 hrole)
    · cases h
  · intro h
    unfold ofRecord
    cases h with
    | kind h => rw [(Kind.ofCode?_eq_none_iff b0).2 h]
    | role hkind h =>
      obtain ⟨kind, hkind⟩ := Kind.exists_ofCode? hkind
      rw [hkind, (Role.ofCode?_eq_none_iff b1).2 h]

theorem decode_eq_tooShort_iff (bytes : List UInt8) (length : Nat) :
    decode bytes = .error (.tooShort length) ↔ bytes.length < 8 ∧ length = bytes.length := by
  rcases Nat.lt_or_ge bytes.length 8 with hlt | hge
  · have hshort : decode bytes = .error (.tooShort bytes.length) := by
      unfold decode
      split
      · simp only [List.length_cons] at hlt
        omega
      · rfl
    rw [hshort]
    simp [hlt, eq_comm]
  · have hlong : ¬ bytes.length < 8 := by omega
    simp only [hlong, false_and, iff_false]
    obtain ⟨b0, b1, b2, b3, b4, b5, b6, b7, rest, rfl⟩ := exists_record hge
    intro h
    cases (ofRecord_eq_error_iff b0 b1 b2 b3 b4 b5 b6 b7 _).1 h

/-- A record is read from its eight bytes, as the only record of an image is. -/
theorem decode_of_long {bytes : List UInt8} (h : 8 ≤ bytes.length) :
    (∀ rest, decode (bytes.take 8 ++ rest) = decode bytes) ∧
      Board.decode (bytes.take 8) = (decode bytes).map fun device => [device] := by
  obtain ⟨b0, b1, b2, b3, b4, b5, b6, b7, rest, rfl⟩ := exists_record h
  have hone : Board.decode [b0, b1, b2, b3, b4, b5, b6, b7] =
      (ofRecord b0 b1 b2 b3 b4 b5 b6 b7).map fun device => [device] := by
    have hwhole : [b0, b1, b2, b3, b4, b5, b6, b7].length % recordSize = 0 :=
      Nat.mod_self 8
    rw [Board.decode, if_pos hwhole, Board.ofRecords]
    cases ofRecord b0 b1 b2 b3 b4 b5 b6 b7 <;> rfl
  exact ⟨fun _ => rfl, hone⟩

end Device

theorem faultAt_succ (b0 b1 b2 b3 b4 b5 b6 b7 : UInt8) (rest : List UInt8) (n : Nat)
    (error : ImageError) :
    FaultAt (b0 :: b1 :: b2 :: b3 :: b4 :: b5 :: b6 :: b7 :: rest) (n + 1) error ↔
      FaultAt rest n error := by
  rw [FaultAt, recordByte_succ, recordByte_succ, FaultAt]

namespace Board

/-- Reading stops at the first faulty record, with its fault. -/
theorem ofRecords_eq_error_iff (image : List UInt8) (error : ImageError) :
    ofRecords image = .error error ↔ ∃ n < image.length / 8, FaultAt image n error ∧
      ∀ j < n, ∀ other, ¬ FaultAt image j other := by
  fun_induction ofRecords image with
  | case1 b0 b1 b2 b3 b4 b5 b6 b7 rest ih =>
    have hlength : (b0 :: b1 :: b2 :: b3 :: b4 :: b5 :: b6 :: b7 :: rest).length / 8 =
        rest.length / 8 + 1 := Nat.add_div_right rest.length (Nat.succ_pos 7)
    have hrecord := Device.ofRecord_eq_error_iff b0 b1 b2 b3 b4 b5 b6 b7
    have hlater := faultAt_succ b0 b1 b2 b3 b4 b5 b6 b7 rest
    rw [hlength]
    cases hd : Device.ofRecord b0 b1 b2 b3 b4 b5 b6 b7 with
    | error fault =>
      have hfault : RecordFault b0 b1 fault := (hrecord fault).1 hd
      constructor
      · intro h
        cases h
        exact ⟨0, Nat.succ_pos _, hfault, fun j hj => absurd hj (Nat.not_lt_zero j)⟩
      · rintro ⟨n, -, hn, hfirst⟩
        cases n with
        | zero =>
          obtain rfl : fault = error :=
            Except.error.inj (hd.symm.trans ((hrecord error).2 hn))
          rfl
        | succ n => exact absurd hfault (hfirst 0 n.succ_pos fault)
    | ok device =>
      have hsound : ∀ fault, ¬ RecordFault b0 b1 fault := by
        intro fault hfault
        cases hd.symm.trans ((hrecord fault).2 hfault)
      have hrest : (ofRecords rest >>= fun board => pure (device :: board)) = .error error ↔
          ofRecords rest = .error error := by
        cases ofRecords rest with
        | error fault => exact Iff.rfl
        | ok board =>
          constructor
          · intro h
            cases h
          · intro h
            cases h
      refine hrest.trans (ih.trans ?_)
      -- the records of the rest are those of the image, one further on
      constructor
      · rintro ⟨n, hlt, hn, hfirst⟩
        refine ⟨n + 1, by omega, (hlater n error).2 hn, fun j hj other => ?_⟩
        cases j with
        | zero => exact hsound other
        | succ j =>
          rw [hlater]
          exact hfirst j (by omega) other
      · rintro ⟨n, hlt, hn, hfirst⟩
        cases n with
        | zero => exact absurd hn (hsound error)
        | succ n =>
          refine ⟨n, by omega, (hlater n error).1 hn, fun j hj other => ?_⟩
          rw [← hlater]
          exact hfirst (j + 1) (by omega) other
  | case2 image hshort =>
    have hlt := Device.length_lt_of_no_record hshort
    constructor
    · intro h
      cases h
    · rintro ⟨n, hn, -⟩
      omega

theorem decode_eq_error_iff (image : List UInt8) (error : ImageError) :
    decode image = .error error ↔ Refused image error := by
  by_cases hwhole : image.length % 8 = 0
  · have hdecode : decode image = ofRecords image := if_pos hwhole
    rw [hdecode, ofRecords_eq_error_iff]
    constructor
    · rintro ⟨n, hn, hfault, hfirst⟩
      exact .record hwhole hn hfault hfirst
    · intro h
      cases h with
      | trailing h => exact absurd hwhole h
      | record _ hn hfault hfirst => exact ⟨_, hn, hfault, hfirst⟩
  · have hdecode : decode image = .error (.trailingBytes image.length) := if_neg hwhole
    rw [hdecode]
    constructor
    · intro h
      cases h
      exact .trailing hwhole
    · intro h
      cases h with
      | trailing _ => rfl
      | record h _ _ _ => exact absurd h hwhole

theorem exists_refused_iff (image : List UInt8) :
    (∃ error, Refused image error) ↔ ¬ Accepted image := by
  simp only [← decode_eq_error_iff, ← exists_decode_iff]
  cases decode image with
  | error error => simp
  | ok board => simp

/-- An image is refused for what is wrong with it first, and whenever it is not accepted; it is
never too short. Bytes are too short for a record if there are fewer than eight of them. Otherwise
only the first eight count, and they are read as an image of one record is. -/
theorem first_fault_reported :
    (∀ image error, decode image = .error error ↔ Refused image error) ∧
    (∀ image, (∃ error, Refused image error) ↔ ¬ Accepted image) ∧
    (∀ image length, decode image ≠ .error (.tooShort length)) ∧
    (∀ bytes length, Device.decode bytes = .error (.tooShort length) ↔
      bytes.length < 8 ∧ length = bytes.length) ∧
    ∀ bytes, 8 ≤ bytes.length →
      (∀ rest, Device.decode (bytes.take 8 ++ rest) = Device.decode bytes) ∧
      decode (bytes.take 8) = (Device.decode bytes).map fun device => [device] := by
  refine ⟨decode_eq_error_iff, exists_refused_iff, ?_, Device.decode_eq_tooShort_iff,
    fun bytes => Device.decode_of_long⟩
  intro image length h
  cases (decode_eq_error_iff image _).1 h with
  | record _ _ hfault _ => cases hfault

/-- A record without a fault, one whose role is bad, and one whose kind and role are both bad. -/
def faultyImage : List UInt8 :=
  [12, 5, 0, 0, 10, 0, 0, 0, 1, 6, 0, 0, 11, 0, 0, 0, 13, 6, 0, 0, 12, 0, 0, 0]

/-- The role of the second record is reported, and a byte too many hides it. The third record, with
or without two bytes behind it, is of an unknown kind. -/
theorem first_fault_reported_role :
    decode faultyImage = .error (.unknownRole 6) ∧
    decode (faultyImage ++ [13]) = .error (.trailingBytes 25) ∧
    Device.decode (faultyImage.drop 17) = .error (.tooShort 7) ∧
    let last := faultyImage.drop 16
    decode last = .error (.unknownKind 13) ∧
    decode last = (Device.decode (last ++ [1, 6])).map fun device => [device] := by
  obtain ⟨hrefused, -, -, hshort, hlong⟩ := first_fault_reported
  have hfirst : ∀ j < 1, ∀ other, ¬ FaultAt faultyImage j other := by
    intro j hj other hfault
    obtain rfl : j = 0 := by omega
    cases hfault with
    | kind h => exact absurd h (by decide)
    | role _ h => exact absurd h (by decide)
  have hrole : RecordFault 1 6 (.unknownRole 6) := .role (by decide) (by decide)
  have hkind : RecordFault 13 6 (.unknownKind 13) := .kind (by decide)
  have htake : (faultyImage.drop 16 ++ [1, 6]).take 8 = faultyImage.drop 16 := by decide
  have hrecord := (hlong (faultyImage.drop 16 ++ [1, 6]) (by decide)).2
  rw [htake] at hrecord
  refine ⟨(hrefused _ _).2 ?_, (hrefused _ _).2 (.trailing (by decide)),
    (hshort _ _).2 ⟨by decide, rfl⟩, (hrefused _ _).2 ?_, hrecord⟩
  · exact @Refused.record faultyImage 1 _ rfl (by decide) hrole hfirst
  · exact @Refused.record (faultyImage.drop 16) 0 _ rfl (by decide) hkind
      fun j hj => absurd hj (Nat.not_lt_zero j)

end Board

end Switchboard
