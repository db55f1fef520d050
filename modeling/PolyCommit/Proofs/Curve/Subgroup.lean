import PolyCommit.Proofs.Curve.Bn254

/-!
# Membership in the subgroup of the twist

The membership test multiplies in homogeneous coordinates by one less than the order of the group
and compares with the opposite point. On the twist this decides whether the affine multiple by the
whole order is the identity. Every multiple of a triple stands for the affine multiple of its point,
also where equal points, opposite points or the identity meet on the way, and a multiple that is the
identity is never equal to the opposite point: its normal form is the pair of zeros, and no point of
a regular curve has ordinate zero.
-/

namespace PolyCommit

namespace Homogeneous

variable {F : Type} [Field F] [DecidableEq F] {b : F} {G : PointGroup F} {A : Affine F}

/-- Multiples of the triple of a point stand for the affine multiples of the point. -/
theorem represents_mul_ofAffine (hb : Regular b) (hadd : G.add = Point.add)
    (hA : A.onCurve b = true) (k : ℕ) :
    (mul k (ofAffine A)).Represents (G.multiple k (some A)) := by
  obtain ⟨w, hw⟩ := (onCurve_iff hb (some A)).mp hA
  rw [← hw, multiple_coordinates hb hadd]
  exact Represents.mul hb k (hw ▸ represents_ofAffine A)

/-- The comparison decides whether the affine multiple by the order is the identity. -/
theorem hasOrder_iff_multiple (hb : Regular b) (hadd : G.add = Point.add)
    (hA : A.onCurve b = true) {n : ℕ} (hn : n ≠ 0) :
    hasOrder n A = true ↔ G.multiple n (some A) = none := by
  obtain ⟨w, hw⟩ := (onCurve_iff hb (some A)).mp hA
  rw [hasOrder_iff hb hn hw, ← hw, multiple_coordinates hb hadd]
  exact (coordinates_injective.eq_iff' coordinates_zero).symm

/-- The comparison fails where the multiple is the identity, which has the pair of zeros for normal
form. -/
theorem hasOrder_eq_false_of_z_eq_zero (hb : Regular b) (hA : A.onCurve b = true) {n : ℕ}
    (hz : (mul (n - 1) (ofAffine A)).z = 0) : hasOrder n A = false := by
  have hy : A.y ≠ 0 := hb.ordinate_ne_zero (of_decide_eq_true hA)
  have hzeros : (mul (n - 1) (ofAffine A)).normalize = ⟨0, 0⟩ := Represents.normalize_eq_zero hz
  have hopp : (ofAffine A).neg.normalize = A.neg := by
    simp [ofAffine, neg, normalize, Affine.neg]
  rw [hasOrder, decide_eq_false_iff_not, hzeros, hopp]
  intro h
  exact hy (neg_eq_zero.mp (congrArg Affine.y h).symm)

end Homogeneous

namespace Bn254

open Homogeneous

/-- The equation of a curve, with powers. -/
theorem onCurve_iff_pow (b x y : Fq2) : Affine.onCurve b ⟨x, y⟩ = true ↔ y ^ 2 = x ^ 3 + b := by
  rw [Affine.onCurve, decide_eq_true_iff]
  constructor
  · intro h
    linear_combination h
  · intro h
    linear_combination h

/-- The membership test accepts a pair of coordinates exactly if it is a point of the twist whose
affine multiple by the order of the group, which is not reduced, is the identity. On the twist the
homogeneous multiples stand for the affine ones; the comparison of normal forms fails where the
multiple is the identity, and holds for every point of the subgroup. -/
theorem subgroup_exact (x y : Fq2) :
    (inSubgroup₂ (some ⟨x, y⟩) = true ↔
      y ^ 2 = x ^ 3 + twistB ∧ group₂.multiple groupOrder (some ⟨x, y⟩) = none) ∧
    (y ^ 2 = x ^ 3 + twistB →
      (∀ k, (mul k (ofAffine ⟨x, y⟩)).Represents (group₂.multiple k (some ⟨x, y⟩))) ∧
      ((mul (groupOrder - 1) (ofAffine ⟨x, y⟩)).z = 0 → hasOrder groupOrder ⟨x, y⟩ = false) ∧
      (group₂.multiple groupOrder (some ⟨x, y⟩) = none → hasOrder groupOrder ⟨x, y⟩ = true)) := by
  have horder (hcurve : Affine.onCurve twistB ⟨x, y⟩ = true) :
      hasOrder groupOrder ⟨x, y⟩ = true ↔ group₂.multiple groupOrder (some ⟨x, y⟩) = none :=
    hasOrder_iff_multiple twistB_regular rfl hcurve (by decide)
  rw [← onCurve_iff_pow]
  refine ⟨?test, fun hcurve => ⟨?multiples, ?identity, ?member⟩⟩
  case test =>
    rw [inSubgroup₂, Bool.and_eq_true]
    exact and_congr_right horder
  case multiples => exact represents_mul_ofAffine twistB_regular rfl hcurve
  case identity => exact hasOrder_eq_false_of_z_eq_zero twistB_regular hcurve
  case member => exact (horder hcurve).mpr

/-- The base is accepted, and a point of the twist outside the subgroup is not: its multiple by the
order is another point. -/
theorem subgroup_exact_outside :
    inSubgroup₂ (some base₂) = true ∧ group₂.multiple groupOrder (some base₂) = none ∧
    ∃ y : Fq2, y ^ 2 = 1 ^ 3 + twistB ∧ inSubgroup₂ (some ⟨1, y⟩) = false ∧
      group₂.multiple groupOrder (some ⟨1, y⟩) ≠ none ∧
      ∀ k, (mul k (ofAffine ⟨1, y⟩)).Represents (group₂.multiple k (some ⟨1, y⟩)) := by
  have hbase : inSubgroup₂ (some base₂) = true := by decide +kernel
  refine ⟨hbase, ((subgroup_exact base₂.x base₂.y).1.mp hbase).2, ?_⟩
  let y : Fq2 :=
    ⟨.ofNat 18278151005453108793778860132295291098363647455926340152056652516292830556603,
      .ofNat 5912654199736721486680175016176231956195085055698687135131307249486702594212⟩
  have hcurve : y ^ 2 = 1 ^ 3 + twistB := by
    rw [← onCurve_iff_pow]
    decide +kernel
  have houtside : inSubgroup₂ (some ⟨1, y⟩) = false := by decide +kernel
  refine ⟨y, hcurve, houtside, fun hnone => ?_, ((subgroup_exact 1 y).2 hcurve).1⟩
  rw [(subgroup_exact 1 y).1.mpr ⟨hcurve, hnone⟩] at houtside
  cases houtside

end Bn254

end PolyCommit
