/-!
# Big-endian numbers

Natural numbers as byte strings of a fixed width, the highest byte first. Main statements: decoding
what was encoded gives the number modulo the room of the width, and encoding what was decoded gives
the bytes back.
-/

namespace PolyCommit

/-- A byte string. -/
abbrev Bytes := List UInt8

namespace BigEndian

/-- How many numbers have room in a width. -/
def room : Nat → Nat
  | 0 => 1
  | width + 1 => room width * 256

/-- The lowest `width` bytes of a number. -/
def encode : Nat → Nat → Bytes
  | 0, _ => []
  | width + 1, n => UInt8.ofNat (n / room width) :: encode width n

/-- The number that a byte string spells. -/
def decode (bytes : Bytes) : Nat := bytes.foldl (fun n b => 256 * n + b.toNat) 0

/-- There is room for one number at least. -/
theorem room_pos (width : Nat) : 0 < room width := by
  induction width with
  | zero => exact Nat.one_pos
  | succ width ih => exact Nat.mul_pos ih (by omega)

/-- An encoding has as many bytes as it is wide. -/
@[simp] theorem length_encode (width n : Nat) : (encode width n).length = width := by
  induction width with
  | zero => rfl
  | succ width ih => rw [encode, List.length_cons, ih]

/-- A first byte counts as many times as the others have room for. -/
theorem foldl_decode (bytes : Bytes) (n : Nat) :
    bytes.foldl (fun n b => 256 * n + b.toNat) n = n * room bytes.length + decode bytes := by
  unfold decode
  induction bytes generalizing n with
  | nil => simp [room]
  | cons b bytes ih =>
    rw [List.foldl_cons, List.foldl_cons, ih, ih (256 * 0 + b.toNat), List.length_cons, room,
      Nat.add_mul, Nat.mul_zero, Nat.zero_add, Nat.add_assoc, Nat.mul_comm 256 n, Nat.mul_assoc,
      Nat.mul_comm 256]

/-- The first byte is worth as many times its number as there are values of the others. -/
theorem decode_cons (b : UInt8) (bytes : Bytes) :
    decode (b :: bytes) = b.toNat * room bytes.length + decode bytes := by
  rw [decode, List.foldl_cons, foldl_decode, Nat.mul_zero, Nat.zero_add]

/-- A byte string spells a number within its width. -/
theorem decode_lt (bytes : Bytes) : decode bytes < room bytes.length := by
  induction bytes with
  | nil => exact Nat.one_pos
  | cons b bytes ih =>
    rw [decode_cons, List.length_cons, room]
    have hb : b.toNat + 1 ≤ 256 := b.toNat_lt
    have := Nat.mul_le_mul_right (room bytes.length) hb
    rw [Nat.add_mul] at this
    omega

/-- What was encoded reads back modulo the room of the width. -/
theorem decode_encode (width n : Nat) : decode (encode width n) = n % room width := by
  induction width with
  | zero => simp [encode, decode, room, Nat.mod_one]
  | succ width ih =>
    have hbyte : (UInt8.ofNat (n / room width)).toNat = n / room width % 256 :=
      UInt8.toNat_ofNat'
    rw [encode, decode_cons, ih, length_encode, hbyte, room, Nat.mod_mul, Nat.mul_comm,
      Nat.add_comm]

/-- Bytes above a width play no part in it. -/
theorem encode_mul_room_add (d w m n : Nat) :
    encode w (m * room (w + d) + n) = encode w n := by
  induction w generalizing d with
  | zero => rfl
  | succ w ih =>
    have hroom : m * room (w + 1 + d) = room w * (m * (room (w + 1 + d) / room w)) := by
      have hdiv : room w ∣ room (w + 1 + d) := by
        clear ih
        induction d with
        | zero => exact ⟨256, rfl⟩
        | succ d ih => exact Nat.dvd_mul_right_of_dvd ih 256
      obtain ⟨k, hk⟩ := hdiv
      rw [hk, Nat.mul_div_cancel_left k (room_pos w), Nat.mul_left_comm]
    have hbytes : 256 ∣ room (w + 1 + d) / room w := by
      clear ih hroom
      induction d with
      | zero =>
        refine ⟨1, ?_⟩
        change room w * 256 / room w = 256 * 1
        rw [Nat.mul_div_cancel_left 256 (room_pos w)]
      | succ d ih => exact ⟨room (w + 1 + d) / room w, by
          have hdiv : room w ∣ room (w + 1 + d) := by
            clear ih
            induction d with
            | zero => exact ⟨256, rfl⟩
            | succ d ih => exact Nat.dvd_mul_right_of_dvd ih 256
          change room (w + 1 + d) * 256 / room w = _
          rw [Nat.mul_comm (room (w + 1 + d)) 256, Nat.mul_div_assoc 256 hdiv]⟩
    obtain ⟨k, hk⟩ := hbytes
    have hrest : encode w (m * room (w + 1 + d) + n) = encode w n := by
      have := ih (d + 1)
      rwa [show w + (d + 1) = w + 1 + d by omega] at this
    rw [encode, encode, hrest, hroom, Nat.mul_add_div (room_pos w), hk, UInt8.ofNat_add]
    congr 1
    rw [Nat.mul_left_comm, UInt8.ofNat_mul]
    simp

/-- What was decoded is encoded to the same bytes. -/
theorem encode_decode (bytes : Bytes) : encode bytes.length (decode bytes) = bytes := by
  induction bytes with
  | nil => rfl
  | cons b bytes ih =>
    have hlt := decode_lt bytes
    have hrest := encode_mul_room_add 0 bytes.length b.toNat (decode bytes)
    rw [Nat.add_zero] at hrest
    rw [List.length_cons, decode_cons, encode, hrest, ih, Nat.mul_comm b.toNat,
      Nat.mul_add_div (room_pos _), Nat.div_eq_of_lt hlt, Nat.add_zero, UInt8.ofNat_toNat]

end BigEndian

end PolyCommit
