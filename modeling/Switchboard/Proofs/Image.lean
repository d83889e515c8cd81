import Switchboard.Device.Image

/-!
# Images and boards

An accepted image is exactly the encoding of its board, so record `n` of the image is
device `n` of the board, byte by byte. The views below read a record without decoding it.
-/
namespace Switchboard

/-- A list in code order answers exactly the code of what it holds. -/
theorem getElem?_eq_some_iff_code {α : Type} {all : List α} (code : α → Nat) (hn : all.Nodup)
    (hc : ∀ a, all[code a]? = some a) (n : Nat) (a : α) : all[n]? = some a ↔ n = code a := by
  constructor
  · intro h
    have hlt : n < all.length := (List.getElem?_eq_some_iff.1 h).1
    rw [← hc a] at h
    exact (List.getElem?_inj hlt hn).1 h
  · rintro rfl
    exact hc a

namespace Kind

theorem getElem?_all_iff (n : Nat) (kind : Kind) : all[n]? = some kind ↔ n = kind.code.toNat :=
  getElem?_eq_some_iff_code (fun kind => kind.code.toNat) (by decide)
    (fun kind => by cases kind <;> rfl) n kind

theorem ofCode?_eq_some_iff (code : UInt8) (kind : Kind) :
    ofCode? code = some kind ↔ code = kind.code := by
  rw [ofCode?, getElem?_all_iff, UInt8.toNat_inj]

end Kind

namespace Role

theorem getElem?_all_iff (n : Nat) (role : Role) : all[n]? = some role ↔ n = role.code.toNat :=
  getElem?_eq_some_iff_code (fun role => role.code.toNat) (by decide)
    (fun role => by cases role <;> rfl) n role

theorem ofCode?_eq_some_iff (code : UInt8) (role : Role) :
    ofCode? code = some role ↔ code = role.code := by
  rw [ofCode?, getElem?_all_iff, UInt8.toNat_inj]

end Role

namespace Device

/-- Four bytes, low byte first, as one word. -/
def word (b0 b1 b2 b3 : UInt8) : UInt32 :=
  UInt32.ofNat (b0.toNat + 256 * b1.toNat + 65536 * b2.toNat + 16777216 * b3.toNat)

theorem word_bytes (handle : UInt32) :
    word (UInt8.ofNat handle.toNat) (UInt8.ofNat (handle.toNat / 256))
      (UInt8.ofNat (handle.toNat / 65536)) (UInt8.ofNat (handle.toNat / 16777216)) = handle := by
  have hlt := handle.toNat_lt
  apply UInt32.toNat_inj.1
  simp only [word, UInt32.toNat_ofNat', UInt8.toNat_ofNat']
  omega

theorem bytes_word (b0 b1 b2 b3 : UInt8) :
    let n := (word b0 b1 b2 b3).toNat
    UInt8.ofNat n = b0 ∧ UInt8.ofNat (n / 256) = b1 ∧ UInt8.ofNat (n / 65536) = b2 ∧
      UInt8.ofNat (n / 16777216) = b3 := by
  have h0 := b0.toNat_lt
  have h1 := b1.toNat_lt
  have h2 := b2.toNat_lt
  have h3 := b3.toNat_lt
  simp only [word, UInt32.toNat_ofNat', ← UInt8.toNat_inj, UInt8.toNat_ofNat']
  omega

/-- Eight bytes are a record, whatever follows. -/
theorem exists_record {bytes : List UInt8} (h : 8 ≤ bytes.length) :
    ∃ b0 b1 b2 b3 b4 b5 b6 b7 rest,
      bytes = b0 :: b1 :: b2 :: b3 :: b4 :: b5 :: b6 :: b7 :: rest := by
  match hfirst : bytes.take 8, List.length_take_of_le h with
  | [b0, b1, b2, b3, b4, b5, b6, b7], _ =>
    refine ⟨b0, b1, b2, b3, b4, b5, b6, b7, bytes.drop 8, ?_⟩
    rw [← List.take_append_drop 8 bytes, hfirst]
    simp

/-- Bytes that begin with no record are fewer than eight. -/
theorem length_lt_of_no_record {bytes : List UInt8}
    (h : ∀ b0 b1 b2 b3 b4 b5 b6 b7 rest,
      bytes ≠ b0 :: b1 :: b2 :: b3 :: b4 :: b5 :: b6 :: b7 :: rest) : bytes.length < 8 := by
  rcases Nat.lt_or_ge bytes.length 8 with hlt | hge
  · exact hlt
  · obtain ⟨b0, b1, b2, b3, b4, b5, b6, b7, rest, hbytes⟩ := exists_record hge
    exact absurd hbytes (h b0 b1 b2 b3 b4 b5 b6 b7 rest)

/-- Reading a record succeeds exactly on the encoding of the device it yields. -/
theorem ofRecord_eq_ok_iff (b0 b1 b2 b3 b4 b5 b6 b7 : UInt8) (device : Device) :
    ofRecord b0 b1 b2 b3 b4 b5 b6 b7 = .ok device ↔
      device.encode = [b0, b1, b2, b3, b4, b5, b6, b7] := by
  constructor
  · intro h
    unfold ofRecord at h
    split at h
    · cases h
    · cases h
    · rename_i kind role hkind hrole
      cases h
      rw [Kind.ofCode?_eq_some_iff] at hkind
      rw [Role.ofCode?_eq_some_iff] at hrole
      obtain ⟨h4, h5, h6, h7⟩ := bytes_word b4 b5 b6 b7
      simp only [encode, word] at h4 h5 h6 h7 ⊢
      rw [h4, h5, h6, h7, hkind, hrole]
  · intro h
    simp only [encode, List.cons.injEq, and_true] at h
    obtain ⟨rfl, rfl, rfl, rfl, rfl, rfl, rfl, rfl⟩ := h
    have hkind := (Kind.ofCode?_eq_some_iff _ device.place.kind).2 rfl
    have hrole := (Role.ofCode?_eq_some_iff _ device.place.role).2 rfl
    have hword := word_bytes device.handle
    simp only [word] at hword
    simp only [ofRecord, hkind, hrole, hword]

@[simp] theorem length_encode (device : Device) : device.encode.length = 8 := rfl

end Device

namespace Board

@[simp] theorem encode_nil : encode [] = [] := rfl

@[simp] theorem encode_cons (device : Device) (board : Board) :
    encode (device :: board) = device.encode ++ encode board := rfl

theorem length_encode (board : Board) : (encode board).length = 8 * board.length := by
  induction board with
  | nil => rfl
  | cons device board ih =>
    rw [encode_cons, List.length_append, Device.length_encode, ih, List.length_cons]
    omega

theorem encode_of_ofRecords {image : List UInt8} {board : Board}
    (hl : image.length % 8 = 0) (h : ofRecords image = .ok board) : encode board = image := by
  fun_induction ofRecords image generalizing board with
  | case1 b0 b1 b2 b3 b4 b5 b6 b7 rest ih =>
    cases hd : Device.ofRecord b0 b1 b2 b3 b4 b5 b6 b7 with
    | error e => rw [hd] at h; cases h
    | ok device =>
      rw [hd] at h
      cases ht : ofRecords rest with
      | error e => rw [ht] at h; cases h
      | ok tail =>
        rw [ht] at h
        cases h
        have hr : rest.length % 8 = 0 := by simp only [List.length_cons] at hl; omega
        rw [encode_cons, (Device.ofRecord_eq_ok_iff ..).1 hd, ih hr ht]
        rfl
  | case2 image hshort =>
    cases h
    -- fewer than eight bytes, and a multiple of eight
    have hlt := Device.length_lt_of_no_record hshort
    exact (List.eq_nil_of_length_eq_zero (by omega)).symm

theorem ofRecords_encode (board : Board) : ofRecords (encode board) = .ok board := by
  induction board with
  | nil => rfl
  | cons device board ih =>
    have hd : Device.ofRecord _ _ _ _ _ _ _ _ = .ok device :=
      (Device.ofRecord_eq_ok_iff ..).2 rfl
    rw [encode_cons]
    simp only [Device.encode, List.cons_append, List.nil_append, ofRecords, hd, ih]
    rfl

/-- An image is accepted exactly when it is the encoding of the board it yields. -/
theorem decode_eq_ok_iff (image : List UInt8) (board : Board) :
    decode image = .ok board ↔ encode board = image := by
  constructor
  · intro h
    unfold decode at h
    split at h
    · exact encode_of_ofRecords ‹_› h
    · cases h
  · rintro rfl
    have hl : (encode board).length % Device.recordSize = 0 := by
      rw [length_encode]
      exact Nat.mul_mod_right 8 _
    rw [decode, if_pos hl, ofRecords_encode]

end Board

/-- Byte `offset` of record `n`. -/
def recordByte (image : List UInt8) (n offset : Nat) : UInt8 := image.getD (8 * n + offset) 0

/-- Bytes 4 to 7 of record `n`, low byte first. -/
def recordHandle (image : List UInt8) (n : Nat) : UInt32 :=
  Device.word (recordByte image n 4) (recordByte image n 5) (recordByte image n 6)
    (recordByte image n 7)

/-- Bit 0 of byte 3 of record `n`. -/
def recordActiveLow (image : List UInt8) (n : Nat) : Bool := recordByte image n 3 &&& 1 == 1

namespace Board

/-- The bytes of record `n` are those of device `n`. -/
theorem recordByte_encode {board : Board} {n : Nat} {device : Device}
    (hd : board[n]? = some device) {offset : Nat} (ho : offset < 8) :
    recordByte (encode board) n offset = device.encode.getD offset 0 := by
  induction board generalizing n with
  | nil => simp at hd
  | cons first board ih =>
    simp only [recordByte, List.getD_eq_getElem?_getD, encode_cons] at ih ⊢
    cases n with
    | zero =>
      obtain rfl : first = device := by simpa using hd
      rw [List.getElem?_append_left (by rw [Device.length_encode]; omega), Nat.mul_zero,
        Nat.zero_add]
    | succ n =>
      have hd' : board[n]? = some device := by simpa using hd
      have hi : 8 * (n + 1) + offset - first.encode.length = 8 * n + offset := by
        rw [Device.length_encode]
        omega
      rw [List.getElem?_append_right (by rw [Device.length_encode]; omega), hi, ih hd']

end Board

private theorem testBit_zero_byte (byte : UInt8) : byte.toNat.testBit 0 = (byte &&& 1 == 1) := by
  have h : (byte &&& 1).toNat = byte.toNat % 2 := by
    rw [UInt8.toNat_and]
    exact Nat.and_two_pow_sub_one_eq_mod byte.toNat 1
  rw [Nat.testBit_zero, Bool.eq_iff_iff, decide_eq_true_iff, beq_iff_eq, ← UInt8.toNat_inj, h]
  rfl

/-- What the bytes of record `n` say is what device `n` is. -/
theorem record_of_decode {image : List UInt8} {board : Board} (h : Board.decode image = .ok board)
    {n : Nat} {device : Device} (hd : board[n]? = some device) :
    recordByte image n 0 = device.place.kind.code ∧
    recordByte image n 1 = device.place.role.code ∧
    recordByte image n 2 = device.place.index ∧
    recordHandle image n = device.handle ∧
    recordActiveLow image n = device.activeLow := by
  obtain rfl := (Board.decode_eq_ok_iff image board).1 h
  have hbyte : ∀ offset < 8,
      recordByte (Board.encode board) n offset = device.encode.getD offset 0 :=
    fun _ ho => Board.recordByte_encode hd ho
  refine ⟨hbyte 0 (by decide), hbyte 1 (by decide), hbyte 2 (by decide), ?_, ?_⟩
  · unfold recordHandle
    rw [hbyte 4 (by decide), hbyte 5 (by decide), hbyte 6 (by decide), hbyte 7 (by decide)]
    exact Device.word_bytes device.handle
  · unfold recordActiveLow
    rw [hbyte 3 (by decide)]
    exact (testBit_zero_byte device.flags.bits).symm

/-- An accepted image has as many records as its board has devices. -/
theorem length_of_decode {image : List UInt8} {board : Board} (h : Board.decode image = .ok board) :
    image.length / 8 = board.length := by
  obtain rfl := (Board.decode_eq_ok_iff image board).1 h
  rw [Board.length_encode]
  exact Nat.mul_div_right _ (by decide)

end Switchboard
