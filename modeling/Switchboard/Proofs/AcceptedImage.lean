import Mathlib.Data.Set.Function
import Switchboard.Proofs.Image

/-!
# Accepted images

Which bytes hold a board is said here without decoding them: whole records, each with a code of a
kind and a code of a role. Index, flags and handle may be any bytes. Encoding is a bijection from
the boards onto these images and decoding undoes it, so a flag bit that has no meaning yet is
neither refused nor lost.
-/
namespace Switchboard

/-- Whole records whose first two bytes are codes. -/
structure Accepted (image : List UInt8) : Prop where
  whole : image.length % 8 = 0
  kind : ∀ n < image.length / 8, recordByte image n 0 ≤ 12
  role : ∀ n < image.length / 8, recordByte image n 1 ≤ 5

theorem Kind.code_le (kind : Kind) : kind.code ≤ 12 := by
  cases kind <;> decide

theorem Role.code_le (role : Role) : role.code ≤ 5 := by
  cases role <;> decide

theorem Kind.exists_ofCode? {code : UInt8} (h : code ≤ 12) : ∃ kind, ofCode? code = some kind := by
  have hlt : code.toNat < all.length := Nat.lt_succ_of_le (UInt8.le_iff_toNat_le.1 h)
  exact ⟨all[code.toNat], List.getElem?_eq_getElem hlt⟩

theorem Role.exists_ofCode? {code : UInt8} (h : code ≤ 5) : ∃ role, ofCode? code = some role := by
  have hlt : code.toNat < all.length := Nat.lt_succ_of_le (UInt8.le_iff_toNat_le.1 h)
  exact ⟨all[code.toNat], List.getElem?_eq_getElem hlt⟩

/-- A record is good as soon as its two codes are. -/
theorem Device.exists_ofRecord {kind role : UInt8} (hkind : kind ≤ 12) (hrole : role ≤ 5)
    (index flags h0 h1 h2 h3 : UInt8) :
    ∃ device, ofRecord kind role index flags h0 h1 h2 h3 = .ok device := by
  obtain ⟨k, hk⟩ := Kind.exists_ofCode? hkind
  obtain ⟨r, hr⟩ := Role.exists_ofCode? hrole
  unfold ofRecord
  rw [hk, hr]
  exact ⟨_, rfl⟩

/-- Record `n + 1` of an image is record `n` of what follows its first record. -/
theorem recordByte_succ (b0 b1 b2 b3 b4 b5 b6 b7 : UInt8) (rest : List UInt8) (n offset : Nat) :
    recordByte (b0 :: b1 :: b2 :: b3 :: b4 :: b5 :: b6 :: b7 :: rest) (n + 1) offset =
      recordByte rest n offset := by
  have hplace : 8 * (n + 1) + offset = 8 * n + offset + 8 := by omega
  unfold recordByte
  rw [hplace]
  rfl

theorem Accepted.tail {b0 b1 b2 b3 b4 b5 b6 b7 : UInt8} {rest : List UInt8}
    (h : Accepted (b0 :: b1 :: b2 :: b3 :: b4 :: b5 :: b6 :: b7 :: rest)) : Accepted rest := by
  have hlength : (b0 :: b1 :: b2 :: b3 :: b4 :: b5 :: b6 :: b7 :: rest).length =
      rest.length + 8 := rfl
  have hwhole := h.whole
  rw [hlength] at hwhole
  refine ⟨by omega, ?_, ?_⟩
  · intro n hn
    rw [← recordByte_succ b0 b1 b2 b3 b4 b5 b6 b7]
    exact h.kind (n + 1) (by rw [hlength]; omega)
  · intro n hn
    rw [← recordByte_succ b0 b1 b2 b3 b4 b5 b6 b7]
    exact h.role (n + 1) (by rw [hlength]; omega)

namespace Board

theorem exists_ofRecords {image : List UInt8} (h : Accepted image) :
    ∃ board, ofRecords image = .ok board := by
  fun_induction ofRecords image with
  | case1 b0 b1 b2 b3 b4 b5 b6 b7 rest ih =>
    have hfirst : 0 < (b0 :: b1 :: b2 :: b3 :: b4 :: b5 :: b6 :: b7 :: rest).length / 8 := by
      simp only [List.length_cons]
      omega
    have hkind : b0 ≤ 12 := h.kind 0 hfirst
    have hrole : b1 ≤ 5 := h.role 0 hfirst
    obtain ⟨device, hdevice⟩ := Device.exists_ofRecord hkind hrole b2 b3 b4 b5 b6 b7
    obtain ⟨board, hboard⟩ := ih h.tail
    rw [hdevice, hboard]
    exact ⟨device :: board, rfl⟩
  | case2 image hshort => exact ⟨[], rfl⟩

theorem accepted_encode (board : Board) : Accepted (encode board) := by
  have hlength := length_encode board
  have hrecord : ∀ n < (encode board).length / 8, ∃ device : Device,
      recordByte (encode board) n 0 = device.place.kind.code ∧
        recordByte (encode board) n 1 = device.place.role.code := by
    intro n hn
    have hlt : n < board.length := by omega
    have hd : board[n]? = some board[n] := List.getElem?_eq_getElem hlt
    exact ⟨board[n], recordByte_encode hd (by decide), recordByte_encode hd (by decide)⟩
  refine ⟨by omega, ?_, ?_⟩
  · intro n hn
    obtain ⟨device, hkind, -⟩ := hrecord n hn
    rw [hkind]
    exact device.place.kind.code_le
  · intro n hn
    obtain ⟨device, -, hrole⟩ := hrecord n hn
    rw [hrole]
    exact device.place.role.code_le

theorem exists_decode_iff (image : List UInt8) :
    (∃ board, decode image = .ok board) ↔ Accepted image := by
  constructor
  · rintro ⟨board, h⟩
    rw [← (decode_eq_ok_iff image board).1 h]
    exact accepted_encode board
  · intro h
    obtain ⟨board, hboard⟩ := exists_ofRecords h
    have hwhole : image.length % Device.recordSize = 0 := h.whole
    exact ⟨board, by rw [decode, if_pos hwhole, hboard]⟩

theorem decode_encode (board : Board) : decode (encode board) = .ok board :=
  (decode_eq_ok_iff _ board).2 rfl

theorem encode_bijOn : Set.BijOn encode Set.univ {image | Accepted image} := by
  refine ⟨fun board _ => accepted_encode board, ?_, ?_⟩
  · intro one _ other _ h
    have hsame : (.ok one : Except ImageError Board) = .ok other := by
      rw [← decode_encode one, h, decode_encode other]
    exact Except.ok.inj hsame
  · intro image h
    obtain ⟨board, hboard⟩ := (exists_decode_iff image).2 h
    exact ⟨board, trivial, (decode_eq_ok_iff image board).1 hboard⟩

/-- Boards and accepted images correspond exactly, and every byte of an image is in its board:
an encoded board is decoded to itself, an image is taken exactly if it is accepted, and encoding
what was taken gives the image back, with its flag bytes as they were. -/
theorem images_correspond :
    (∀ board, decode (encode board) = .ok board) ∧
    (∀ image, (∃ board, decode image = .ok board) ↔ Accepted image) ∧
    (∀ image board, decode image = .ok board → encode board = image ∧
      ∀ (n : Nat) (device : Device), board[n]? = some device →
        device.flags.bits = recordByte image n 3) ∧
    Set.BijOn encode Set.univ {image | Accepted image} := by
  refine ⟨decode_encode, exists_decode_iff, ?_, encode_bijOn⟩
  intro image board h
  have himage := (decode_eq_ok_iff image board).1 h
  refine ⟨himage, ?_⟩
  intro n device hd
  have hbyte : recordByte (encode board) n 3 = device.encode.getD 3 0 :=
    recordByte_encode hd (by decide)
  rw [← himage, hbyte]
  rfl

/-- The largest codes, the largest handle and flag bits without a meaning. -/
def fringeImage : List UInt8 := [1, 2, 1, 0x81, 10, 0, 0, 0, 12, 5, 255, 0xfe, 255, 255, 255, 255]

/-- Both records are taken with their flags, and one code too many refuses the whole image. -/
theorem images_correspond_fringe :
    (∃ board, decode fringeImage = .ok board ∧ encode board = fringeImage ∧
      ∀ (n : Nat) (device : Device), board[n]? = some device →
        device.flags.bits = recordByte fringeImage n 3) ∧
    ¬ ∃ board, decode (fringeImage ++ [1, 6, 0, 0, 0, 0, 0, 0]) = .ok board := by
  obtain ⟨-, haccepted, himage, -⟩ := images_correspond
  have hfringe : Accepted fringeImage := ⟨by decide, by decide, by decide⟩
  refine ⟨?_, ?_⟩
  · obtain ⟨board, hboard⟩ := (haccepted fringeImage).2 hfringe
    obtain ⟨hencode, hflags⟩ := himage fringeImage board hboard
    exact ⟨board, hboard, hencode, hflags⟩
  · intro h
    have hrole := ((haccepted _).1 h).role 2 (by decide)
    exact absurd hrole (by decide)

end Board

end Switchboard
