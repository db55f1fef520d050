import PolyCommit.Text.Numeral
import PolyCommit.Proofs.Outcome
import Mathlib.Data.Nat.Digits.Defs
import Mathlib.Tactic.IntervalCases

/-!
# Numerals are read back

The numeral of a natural number consists of ASCII digits, as many as the number needs, and reading
it gives the number, as long as it keeps within the limit on digits. More generally a text of digits
of whatever scripts is read as its positional value. The ten digits of a script follow its zero, and
no two scripts overlap, so that every digit has one value.
-/

namespace PolyCommit

namespace CodePoint

/-- Whether a code point is the digit of value `d` of some script: it stands `d` places after the
zero. -/
def IsDigit (c : CodePoint) (d : ℕ) : Prop := d < 10 ∧ ∃ z ∈ decimalZeros, c.val = z + d

/-- The digits of two scripts do not overlap. -/
theorem eq_of_mem_decimalZeros {z z' : ℕ} (hz : z ∈ decimalZeros) (hz' : z' ∈ decimalZeros)
    (hle : z ≤ z' + 9) (hle' : z' ≤ z + 9) : z = z' := by
  have hall : ∀ z ∈ decimalZeros, ∀ z' ∈ decimalZeros, z ≤ z' + 9 → z' ≤ z + 9 → z = z' := by
    decide +kernel
  exact hall z hz z' hz' hle hle'

/-- The digits that are read are the decimal digits of all scripts. -/
theorem digit?_eq_some_iff {c : CodePoint} {d : ℕ} : c.digit? = some d ↔ c.IsDigit d := by
  rw [digit?, Option.map_eq_some_iff]
  constructor
  · rintro ⟨z, hfind, rfl⟩
    have hz := List.find?_some hfind
    simp only [Bool.and_eq_true, decide_eq_true_eq] at hz
    exact ⟨by omega, z, List.mem_of_find?_eq_some hfind, by omega⟩
  · rintro ⟨hd, z, hz, hc⟩
    obtain ⟨z', hfind⟩ : ∃ z', decimalZeros.find? (fun z => z ≤ c.val && c.val ≤ z + 9) = some z' :=
      Option.isSome_iff_exists.mp (List.find?_isSome.mpr ⟨z, hz, by simp; omega⟩)
    have hz' := List.find?_some hfind
    simp only [Bool.and_eq_true, decide_eq_true_eq] at hz'
    have heq := eq_of_mem_decimalZeros hz (List.mem_of_find?_eq_some hfind) (by omega) (by omega)
    exact ⟨z', hfind, by omega⟩

end CodePoint

namespace Text

/-- Whether a text consists of digits, of whatever scripts, with the values `ds`. -/
def HasDigits (s : Text) (ds : List ℕ) : Prop := List.Forall₂ CodePoint.IsDigit s ds

/-- The texts of digits are those with digits at all places. -/
theorem mapM_digit?_eq_some_iff {s : Text} {ds : List ℕ} :
    s.mapM CodePoint.digit? = some ds ↔ s.HasDigits ds := by
  induction s generalizing ds with
  | nil =>
    rw [HasDigits, List.forall₂_nil_left_iff, List.mapM_nil]
    exact ⟨fun h => (Option.some.inj h).symm, fun h => by rw [h]; rfl⟩
  | cons c s ih =>
    rw [HasDigits, List.forall₂_cons_left_iff, List.mapM_cons]
    constructor
    · intro h
      obtain ⟨d, hd, h⟩ := Option.bind_eq_some_iff.mp h
      obtain ⟨ds', hds, h⟩ := Option.bind_eq_some_iff.mp h
      exact ⟨d, ds', CodePoint.digit?_eq_some_iff.mp hd, ih.mp hds, (Option.some.inj h).symm⟩
    · rintro ⟨d, ds', hd, hds, rfl⟩
      rw [CodePoint.digit?_eq_some_iff.mpr hd, ih.mpr hds]
      rfl

/-- The value of digits is positional, with the lowest digit last. -/
theorem ofDigits_eq (ds : List ℕ) : ofDigits ds = Nat.ofDigits 10 ds.reverse := by
  rw [Nat.ofDigits_eq_foldr, List.foldr_reverse, ofDigits]
  congr 1
  funext n d
  exact Nat.add_comm _ _

/-- An ASCII digit stands for its value. -/
theorem digit?_asciiDigit {d : ℕ} (h : d < 10) : (asciiDigit d).digit? = some d := by
  interval_cases d <;> decide

/-- A number below `10 ^ (k + 1)` has at most `k + 1` digits. -/
theorem length_digitsOnto_le {n k : ℕ} (h : n < 10 ^ (k + 1)) (acc : List ℕ) :
    (digitsOnto n acc).length ≤ k + 1 + acc.length := by
  induction k generalizing n acc with
  | zero =>
    rw [digitsOnto, if_pos (by simpa using h), List.length_cons]
    omega
  | succ k ih =>
    rw [digitsOnto]
    split
    · rw [List.length_cons]
      omega
    · have hquotient : n / 10 < 10 ^ (k + 1) := Nat.div_lt_of_lt_mul (by rwa [← pow_succ'])
      have hrest := ih hquotient (n % 10 :: acc)
      rw [List.length_cons] at hrest
      omega

/-- A number has a digit. -/
theorem digitsOnto_ne_nil (n : ℕ) (acc : List ℕ) : digitsOnto n acc ≠ [] := by
  induction n using Nat.strongRecOn generalizing acc with
  | ind n ih =>
    rw [digitsOnto]
    split
    · exact List.cons_ne_nil _ _
    · exact ih (n / 10) (by omega) _

/-- The digits of a numeral are read one by one. -/
theorem mapM_digit?_ofNat (n : ℕ) : (ofNat n).mapM CodePoint.digit? = some (digitsOnto n []) := by
  have hall : ∀ d ∈ digitsOnto n [], d < 10 := lt_ten_of_mem_digitsOnto (by simp)
  rw [ofNat]
  generalize digitsOnto n [] = ds at hall ⊢
  induction ds with
  | nil => rfl
  | cons d ds ih =>
    obtain ⟨hd, hds⟩ := List.forall_mem_cons.mp hall
    rw [List.map_cons, List.mapM_cons, digit?_asciiDigit hd, ih hds]
    rfl

/-- A numeral within the limit is read as its number. -/
theorem decimal_ofNat {n : ℕ} (h : n < 10 ^ digitLimit) : decimal (ofNat n) = .number n := by
  have hlength : (digitsOnto n []).length ≤ digitLimit := by
    obtain ⟨k, hk⟩ : ∃ k, digitLimit = k + 1 := Nat.exists_eq_succ_of_ne_zero (by decide)
    rw [hk] at h ⊢
    exact length_digitsOnto_le h []
  have hvalue : ofDigits (digitsOnto n []) = n := by
    rw [ofDigits_digitsOnto]
    simp [ofDigits]
  rw [decimal, mapM_digit?_ofNat]
  cases hdigits : digitsOnto n [] with
  | nil => exact absurd hdigits (digitsOnto_ne_nil n [])
  | cons d ds =>
    rw [hdigits] at hlength hvalue
    change Reading.ofDigits (d :: ds) = .number n
    rw [Reading.ofDigits, if_neg (Nat.not_lt.mpr hlength), hvalue]

/-- A text of digits has as many digits as code points. -/
theorem length_of_mapM_digit? {s : Text} {ds : List ℕ} (h : s.mapM CodePoint.digit? = some ds) :
    ds.length = s.length :=
  (List.Forall₂.length_eq (mapM_digit?_eq_some_iff.mp h)).symm

/-- A text of digits, of which there are some, is read as their number. -/
theorem decimal_of_digits {s : Text} {ds : List ℕ} (h : s.mapM CodePoint.digit? = some ds)
    (hne : s ≠ []) : decimal s = .ofDigits ds := by
  have hlength := length_of_mapM_digit? h
  cases ds with
  | nil => exact absurd (List.eq_nil_of_length_eq_zero hlength.symm) hne
  | cons d ds => rw [decimal, h]

/-- The texts that are read are those of digits alone, of which there are some and not too many. -/
theorem decimal_eq_number_iff {s : Text} {n : ℕ} : decimal s = .number n ↔
    ∃ ds, s.mapM CodePoint.digit? = some ds ∧ s ≠ [] ∧ s.length ≤ digitLimit ∧
      ofDigits ds = n := by
  cases hread : s.mapM CodePoint.digit? with
  | none => exact iff_of_false (by rw [decimal, hread]; nofun) nofun
  | some ds =>
    rcases eq_or_ne s [] with rfl | hne
    · exact iff_of_false nofun fun ⟨_, _, hne, _⟩ => hne rfl
    · rw [decimal_of_digits hread hne, Reading.ofDigits, length_of_mapM_digit? hread]
      split
      · next hlong => exact iff_of_false nofun fun ⟨_, _, _, hle, _⟩ => absurd hlong hle.not_gt
      · next hle =>
        refine ⟨fun h => ⟨ds, rfl, hne, Nat.not_lt.mp hle, Reading.number.inj h⟩, ?_⟩
        rintro ⟨_, hds, -, -, rfl⟩
        rw [Option.some.inj hds]

/-- The texts of too many digits are those of digits alone, of which there are too many. -/
theorem decimal_eq_tooLong_iff {s : Text} : decimal s = .tooLong ↔
    ∃ ds, s.mapM CodePoint.digit? = some ds ∧ digitLimit < s.length := by
  cases hread : s.mapM CodePoint.digit? with
  | none => exact iff_of_false (by rw [decimal, hread]; nofun) nofun
  | some ds =>
    rcases eq_or_ne s [] with rfl | hne
    · exact iff_of_false nofun fun ⟨_, _, hlong⟩ => absurd hlong (Nat.not_lt_zero _)
    · rw [decimal_of_digits hread hne, Reading.ofDigits, length_of_mapM_digit? hread]
      split
      · next hlong => exact iff_of_true rfl ⟨ds, rfl, hlong⟩
      · next hle => exact iff_of_false nofun fun ⟨_, _, hlong⟩ => hle hlong

/-- Only a text above the limit is a numeral of too many digits. -/
theorem lt_length_of_decimal_eq_tooLong {s : Text} (h : decimal s = .tooLong) :
    digitLimit < s.length :=
  (decimal_eq_tooLong_iff.mp h).choose_spec.2

end Text

end PolyCommit
