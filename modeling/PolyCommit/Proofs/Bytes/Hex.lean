import PolyCommit.Bytes.Hex
import PolyCommit.Text.Ascii
import Mathlib.Data.List.Basic

/-!
# Which texts are hex text

Writing bytes as hex and reading the text gives them back. The texts that are read are those of
pairs of digits of either case with white space before, between and after the pairs. No digit is
white space, so a text spells one byte string at most, and its canonical form, without white space
and with small letters, is what is written for those bytes.
-/

namespace PolyCommit

namespace CodePoint

variable {c : CodePoint} {d : ℕ}

/-- The code of a written digit. -/
theorem val_hexDigit (h : d < 16) : (hexDigit d).val = if d < 10 then 0x30 + d else 0x57 + d :=
  Nat.mod_eq_of_lt (by split <;> omega)

/-- The code of a character in small letters: capitals move by 32, and the Kelvin sign is a `k`. -/
theorem val_lowerAscii (c : CodePoint) : c.lowerAscii.val =
    if 0x41 ≤ c.val ∧ c.val ≤ 0x5a then c.val + 0x20
    else if c.val = 0x212a then 0x6b
    else c.val := by
  unfold lowerAscii
  split_ifs <;> rfl

/-- The code points that stand for a value are its written digit and the capital of that. -/
theorem hexValue?_eq_some_iff : c.hexValue? = some d ↔ d < 16 ∧ c.lowerAscii = hexDigit d := by
  simp only [hexValue?, Bool.and_eq_true, decide_eq_true_eq]
  constructor
  · intro h
    have hd : d < 16 := by
      split_ifs at h <;> rw [← Option.some.inj h] <;> omega
    refine ⟨hd, Fin.ext ?_⟩
    rw [val_lowerAscii, val_hexDigit hd]
    split_ifs at h <;> rw [← Option.some.inj h] at hd ⊢ <;> split_ifs <;> omega
  · rintro ⟨hd, h⟩
    have hval := congrArg Fin.val h
    rw [val_lowerAscii, val_hexDigit hd] at hval
    by_cases hten : d < 10
    · rw [if_pos hten] at hval
      have hc : c.val = 0x30 + d := by
        split_ifs at hval <;> omega
      rw [if_pos (by omega), Option.some.injEq]
      omega
    · rw [if_neg hten] at hval
      have hc : c.val = 0x37 + d ∨ c.val = 0x57 + d := by
        split_ifs at hval <;> omega
      obtain hcapital | hsmall := hc
      · rw [if_neg (by omega), if_pos (by omega), Option.some.injEq]
        omega
      · rw [if_neg (by omega), if_neg (by omega), if_pos (by omega), Option.some.injEq]
        omega

/-- No hex digit is white space. -/
theorem isAsciiBlank_of_hexValue? (h : c.hexValue? = some d) : c.isAsciiBlank = false := by
  simp only [hexValue?, Bool.and_eq_true, decide_eq_true_eq] at h
  rw [isAsciiBlank, Bool.or_eq_false_iff, Bool.and_eq_false_iff]
  simp only [decide_eq_false_iff_not]
  split_ifs at h <;> omega

end CodePoint

namespace Hex

/-- A pair is the high digit and the low one. -/
theorem pair_eq (b : UInt8) :
    pair b = [CodePoint.hexDigit (b.toNat / 16), CodePoint.hexDigit (b.toNat % 16)] := by
  have hlt : b.toNat / 16 < 16 := Nat.div_lt_of_lt_mul b.toNat_lt
  simp only [pair, Text.hexDigits, List.nil_append, Nat.mod_eq_of_lt hlt, List.singleton_append]

/-- A text of pairs of hex digits, of either case, with white space before, between and after them,
and the bytes that the pairs stand for. -/
inductive Spells : Text → Bytes → Prop
  | nil : Spells [] []
  | blank {c : CodePoint} {s : Text} {bytes : Bytes} (hc : c.isAsciiBlank = true)
      (rest : Spells s bytes) : Spells (c :: s) bytes
  | pair {c d : CodePoint} {b : UInt8} {s : Text} {bytes : Bytes}
      (hpair : Text.lowerAscii [c, d] = pair b) (rest : Spells s bytes) :
      Spells (c :: d :: s) (b :: bytes)

/-- The text without white space and with small letters. -/
def canonical (s : Text) : Text := Text.lowerAscii (s.filter fun c => !c.isAsciiBlank)

variable {c d : CodePoint} {s : Text} {bytes : Bytes}

/-- Two digits are the pair of the byte of their values. -/
theorem lowerAscii_of_hexValue? {high low : ℕ} (hc : c.hexValue? = some high)
    (hd : d.hexValue? = some low) :
    Text.lowerAscii [c, d] = pair (UInt8.ofNat (16 * high + low)) := by
  obtain ⟨hhigh, hc⟩ := CodePoint.hexValue?_eq_some_iff.mp hc
  obtain ⟨hlow, hd⟩ := CodePoint.hexValue?_eq_some_iff.mp hd
  have hvalue : (UInt8.ofNat (16 * high + low)).toNat = 16 * high + low := by
    rw [UInt8.toNat_ofNat']
    omega
  rw [pair_eq, hvalue, show (16 * high + low) / 16 = high by omega,
    show (16 * high + low) % 16 = low by omega, Text.lowerAscii, List.map_cons, List.map_singleton,
    hc, hd]

/-- The digits of a pair are those of its byte. -/
theorem hexValue?_of_lowerAscii {b : UInt8} (h : Text.lowerAscii [c, d] = pair b) :
    c.hexValue? = some (b.toNat / 16) ∧ d.hexValue? = some (b.toNat % 16) := by
  rw [pair_eq, Text.lowerAscii, List.map_cons, List.map_singleton] at h
  simp only [List.cons.injEq, and_true] at h
  exact ⟨CodePoint.hexValue?_eq_some_iff.mpr ⟨Nat.div_lt_of_lt_mul b.toNat_lt, h.1⟩,
    CodePoint.hexValue?_eq_some_iff.mpr ⟨Nat.mod_lt _ (by decide), h.2⟩⟩

/-- White space in front of a text is passed over. -/
theorem decode?_blank_cons (hc : c.isAsciiBlank = true) (s : Text) :
    decode? (c :: s) = decode? s := by
  cases s with
  | nil => simp only [decode?, hc, if_true]
  | cons d s => simp only [decode?, hc, if_true]

/-- Two digits in front of a text are read as their byte. -/
theorem decode?_digits_cons {b : UInt8} (h : Text.lowerAscii [c, d] = pair b) (s : Text) :
    decode? (c :: d :: s) = (decode? s).map (b :: ·) := by
  obtain ⟨hc, hd⟩ := hexValue?_of_lowerAscii h
  rw [decode?, CodePoint.isAsciiBlank_of_hexValue? hc, hc, hd]
  simp only [Nat.div_add_mod, UInt8.ofNat_toNat, Bool.false_eq_true, if_false]

/-- The texts that are read are those that spell bytes. -/
theorem decode?_eq_some_iff : decode? s = some bytes ↔ Spells s bytes := by
  constructor
  · intro h
    fun_induction decode? s generalizing bytes with
    | case1 =>
      rw [← Option.some.inj h]
      exact .nil
    | case2 c hc =>
      rw [← Option.some.inj h]
      exact .blank hc .nil
    | case3 => cases h
    | case4 c d s hc ih => exact .blank hc (ih h)
    | case5 c d s hc high low hlow hhigh ih =>
      obtain ⟨rest, hrest, rfl⟩ := Option.map_eq_some_iff.mp h
      exact .pair (lowerAscii_of_hexValue? hhigh hlow) (ih hrest)
    | case6 => cases h
  · intro h
    induction h with
    | nil => rfl
    | blank hc _ ih => rw [decode?_blank_cons hc, ih]
    | pair hpair _ ih => rw [decode?_digits_cons hpair, ih, Option.map_some]

/-- The digits of a byte are written in small letters. -/
theorem lowerAscii_pair (b : UInt8) : Text.lowerAscii (pair b) = pair b := by
  have hdigit {d : ℕ} (h : d < 16) : (CodePoint.hexDigit d).lowerAscii = CodePoint.hexDigit d :=
    (CodePoint.hexValue?_eq_some_iff.mp (CodePoint.hexValue?_hexDigit h)).2
  rw [pair_eq, Text.lowerAscii, List.map_cons, List.map_singleton,
    hdigit (Nat.div_lt_of_lt_mul b.toNat_lt), hdigit (Nat.mod_lt _ (by decide))]

/-- What is written for bytes spells them. -/
theorem spells_encode (bytes : Bytes) : Spells (encode bytes) bytes := by
  induction bytes with
  | nil => exact .nil
  | cons b bytes ih =>
    rw [encode, List.flatMap_cons, pair_eq]
    apply Spells.pair _ ih
    rw [← pair_eq, lowerAscii_pair]

/-- Every byte string is read back. -/
theorem decode?_encode (bytes : Bytes) : decode? (encode bytes) = some bytes :=
  decode?_eq_some_iff.mpr (spells_encode bytes)

/-- The canonical form of a text is what is written for its bytes. -/
theorem Spells.encode_eq (h : Spells s bytes) : encode bytes = canonical s := by
  induction h with
  | nil => rfl
  | blank hc _ ih => rw [ih, canonical, canonical, List.filter_cons_of_neg (by simpa using hc)]
  | pair hpair _ ih =>
    obtain ⟨hc, hd⟩ := hexValue?_of_lowerAscii hpair
    rw [canonical, Text.lowerAscii] at ih
    rw [encode] at ih ⊢
    rw [List.flatMap_cons, ih, ← hpair, canonical, Text.lowerAscii, Text.lowerAscii,
      List.filter_cons_of_pos (by simp [CodePoint.isAsciiBlank_of_hexValue? hc]),
      List.filter_cons_of_pos (by simp [CodePoint.isAsciiBlank_of_hexValue? hd])]
    rfl

end Hex

end PolyCommit
