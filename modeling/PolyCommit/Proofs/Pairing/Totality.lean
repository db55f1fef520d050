import PolyCommit.Pairing.System
import PolyCommit.Proofs.Pairing.Frobenius

/-!
# The pairing has a value at all members

The loop of the pairing draws lines through a running multiple of its point, and no line leaves the
identity. For a point of order `groupOrder` the running multiple is never the identity: the
multipliers in the loop stay between one and `groupOrder`, and the sum that the first closing chord
leads to would be the identity only if the Frobenius endomorphism multiplied the point by
`-loopCount`, whose sixth power is not minus one.
-/

namespace PolyCommit

/-- Whether a pairing has a value at all members of the two groups. -/
def PairingSystem.IsTotal {T : Type} (E : PairingSystem T) : Prop :=
  ∀ {Q : Point Fq2} {P : Point Fq}, E.g₂.contains Q = true → E.g₁.contains P = true →
    (E.pair Q P).isSome

namespace Ate

open Bn254

/-! ### Lines through running multiples -/

variable {A : Affine Fq2} {T : Affine Fq} {s : Progress} {w : (shortCurve twistB).Point}

/-- A line can be drawn from any point but the identity. -/
theorem Progress.exists_through {v : (shortCurve twistB).Point} (hs : s.point = coordinates v)
    (hv : v ≠ 0) (hw : coordinates w = some A) (T : Affine Fq) :
    ∃ s', s.through A T = some s' ∧ s'.point = coordinates (v + w) := by
  obtain ⟨P, hP⟩ := exists_coordinates_eq_some hv
  rw [coordinates_add twistB_regular, hP, hw, through, hs, hP]
  exact ⟨_, rfl, rfl⟩

/-- One digit doubles the multiplier and adds the digit, if neither multiple on the way is the
identity. -/
theorem Progress.exists_digit {k : ℕ} (hw : coordinates w = some A)
    (hs : s.point = coordinates (k • w)) (hk : k • w ≠ 0) (hdouble : (2 * k) • w ≠ 0)
    (T : Affine Fq) (one : Bool) :
    ∃ s', s.digit A T one = some s' ∧ s'.point = coordinates ((2 * k + one.toNat) • w) := by
  obtain ⟨P, hP⟩ := exists_coordinates_eq_some hk
  rw [hP] at hs
  obtain ⟨d, hd, hpoint⟩ := exists_through (s := ⟨some P, s.value * s.value⟩) hP.symm hk hP T
  rw [← add_nsmul, ← two_mul] at hpoint
  simp only [digit, hs, hd, Option.bind_eq_bind, Option.bind_some]
  cases one with
  | false => exact ⟨d, rfl, hpoint⟩
  | true =>
    obtain ⟨e, he, hsum⟩ := exists_through hpoint hdouble hw T
    exact ⟨e, he, by rw [hsum, ← succ_nsmul]; rfl⟩

/-- No multiple of a point of order `groupOrder` by a smaller number is the identity. -/
theorem nsmul_ne_zero_of_lt (horder : addOrderOf w = groupOrder) {k : ℕ} (hk : 0 < k)
    (hlt : k < groupOrder) : k • w ≠ 0 := fun h =>
  Nat.not_dvd_of_pos_of_lt hk hlt (horder ▸ addOrderOf_dvd_of_nsmul_eq_zero h)

/-- The loop over some digits goes through multiples by numbers below `groupOrder` only. -/
theorem exists_foldlM_digit (hw : coordinates w = some A) (horder : addOrderOf w = groupOrder)
    (T : Affine Fq) (digits : List Bool) {k : ℕ} (hk : 0 < k)
    (hbound : (k + 1) * 2 ^ digits.length ≤ groupOrder) (hs : s.point = coordinates (k • w)) :
    ∃ s', digits.foldlM (fun s one => Progress.digit s A T one) s = some s' ∧
      s'.point = coordinates ((digits.foldl (fun k one => 2 * k + one.toNat) k) • w) := by
  induction digits generalizing k s with
  | nil => exact ⟨s, rfl, hs⟩
  | cons one digits ih =>
    rw [List.length_cons, pow_succ', ← mul_assoc] at hbound
    have hlt : (k + 1) * 2 ≤ groupOrder :=
      (Nat.le_mul_of_pos_right _ (Nat.two_pow_pos digits.length)).trans hbound
    have hone : one.toNat ≤ 1 := one.toNat_le
    obtain ⟨s₁, hs₁, hpoint⟩ := Progress.exists_digit hw hs
      (nsmul_ne_zero_of_lt horder hk (by omega))
      (nsmul_ne_zero_of_lt horder (by omega) (by omega)) T one
    obtain ⟨s', hs', hlast⟩ := ih (k := 2 * k + one.toNat) (by omega)
      ((Nat.mul_le_mul_right _ (by omega)).trans hbound) hpoint
    exact ⟨s', by rw [List.foldlM_cons, hs₁]; exact hs', hlast⟩

/-- The loop count has 64 binary digits after the leading one. -/
theorem length_loopDigits : loopDigits.length = 64 := rfl

/-- The digits of the loop are those of its length. -/
theorem foldl_loopDigits : loopDigits.foldl (fun k one => 2 * k + one.toNat) 1 = loopCount := by
  decide +kernel

/-- The first closing chord does not lead to the identity. -/
theorem loopCount_nsmul_add_ne_zero (horder : addOrderOf w = groupOrder) :
    loopCount • w + frobeniusHom w ≠ 0 := by
  intro h
  have hopp : frobeniusHom w = (-loopCount : ℤ) • w := by
    rw [neg_zsmul, natCast_zsmul]
    exact eq_neg_of_add_eq_zero_right h
  have hdvd := addOrderOf_dvd_iff_zsmul_eq_zero.mpr (zsmul_eq_zero_of_frobeniusHom hopp)
  rw [horder] at hdvd
  exact absurd hdvd (by decide +kernel)

/-- The lines of a point of order `groupOrder` have a product. -/
theorem loop_isSome (hw : coordinates w = some A) (horder : addOrderOf w = groupOrder)
    (T : Affine Fq) : (loop A T).isSome := by
  obtain ⟨s₁, hs₁, h₁⟩ := exists_foldlM_digit (s := ⟨some A, 1⟩) hw horder T loopDigits Nat.one_pos
    (by rw [length_loopDigits]; decide) (by rw [one_nsmul, hw])
  rw [foldl_loopDigits] at h₁
  have hfrobenius : coordinates (frobeniusHom w) = some (frobenius A) := by
    rw [coordinates_frobeniusHom, hw, Option.map_some]
  obtain ⟨s₂, hs₂, h₂⟩ := Progress.exists_through h₁
    (nsmul_ne_zero_of_lt horder (by decide) (by decide)) hfrobenius T
  obtain ⟨s₃, hs₃, -⟩ := Progress.exists_through h₂ (loopCount_nsmul_add_ne_zero horder)
    (A := (frobenius (frobenius A)).neg) (w := -frobeniusHom (frobeniusHom w))
    (by rw [coordinates_neg, coordinates_frobeniusHom, hfrobenius]; rfl) T
  simp only [loop, hs₁, hs₂, hs₃, Option.bind_eq_bind, Option.bind_some, Option.isSome_some]

/-- The pairing has a value at all members. -/
theorem pair_isSome {Q : Point Fq2} {P : Point Fq} (hQ : group₂.contains Q = true)
    (hP : group₁.contains P = true) : (pair Q P).isSome := by
  have hcurves : onTwist Q && onCurve₁ P := by
    rw [onTwist_of_inSubgroup₂ hQ, show onCurve₁ P = true from hP]
    rfl
  unfold pair
  rw [if_pos hcurves]
  cases Q with
  | none => rfl
  | some A =>
    cases P with
    | none => rfl
    | some T =>
      obtain ⟨w, hw, hzero⟩ := (inSubgroup₂_iff (some A)).mp hQ
      have hne : w ≠ 0 := by
        rintro rfl
        exact absurd hw.symm (Option.some_ne_none A)
      have horder : addOrderOf w = groupOrder := addOrderOf_eq_prime hzero hne
      exact Option.isSome_map.trans (loop_isSome hw horder T)

end Ate

/-- The pairing of the service has a value at all members. -/
theorem Bn254.isTotal : bn254.IsTotal := Ate.pair_isSome

end PolyCommit
