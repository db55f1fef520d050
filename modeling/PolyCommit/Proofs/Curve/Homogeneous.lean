import PolyCommit.Curve.Homogeneous
import PolyCommit.Proofs.Curve.ChordTangent

/-!
# Homogeneous coordinates follow the group law

A triple stands for an affine point, or for the identity when its last coordinate is zero. Doubling
and adding triples follows doubling and adding the points they stand for, through every case: equal
points, opposite points and the identity. Hence the comparison in `hasOrder` is exact. Its two
coordinates `0 / 0 = 0` for the identity are no point of the curve, so they cannot agree with an
opposite point by accident.
-/

namespace PolyCommit

namespace Homogeneous

variable {F : Type} [Field F]

/-- A triple stands for a point. -/
def Represents (P : Homogeneous F) : Point F → Prop
  | none => P.z = 0
  | some A => P.z ≠ 0 ∧ P.x = A.x * P.z ∧ P.y = A.y * P.z

/-- The homogeneous identity represents the identity. -/
theorem represents_identity : (identity : Homogeneous F).Represents none := rfl

/-- A point represents itself. -/
theorem represents_ofAffine (A : Affine F) : (ofAffine A).Represents (some A) :=
  ⟨one_ne_zero, (mul_one A.x).symm, (mul_one A.y).symm⟩

/-- The affine coordinates of a finite point are those it stands for. -/
theorem Represents.normalize_eq {P : Homogeneous F} {A : Affine F} (h : P.Represents (some A)) :
    P.normalize = A := by
  obtain ⟨hz, hx, hy⟩ := h
  ext
  · exact (div_eq_iff hz).mpr hx
  · exact (div_eq_iff hz).mpr hy

/-- The identity has the pair of zeros for affine coordinates. -/
theorem Represents.normalize_eq_zero {P : Homogeneous F} (h : P.Represents none) :
    P.normalize = ⟨0, 0⟩ := by
  have hz : P.z = 0 := h
  rw [normalize, hz, div_zero, div_zero]

/-- Doubling a triple doubles the finite point it stands for. -/
theorem Represents.double_some {P : Homogeneous F} {A : Affine F} (h : P.Represents (some A))
    (hA : A.y + A.y ≠ 0) : P.double.Represents (some A.double) := by
  obtain ⟨hz, hx, hy⟩ := h
  have hy0 : A.y ≠ 0 := fun h0 => hA (by rw [h0, add_zero])
  have htwo : (2 : F) ≠ 0 := fun h0 => hA (by rw [← two_mul, h0, zero_mul])
  have hm : A.tangent * (A.y + A.y) = A.x * A.x + A.x * A.x + A.x * A.x := div_mul_cancel₀ _ hA
  generalize hgen : A.tangent = m at hm
  refine ⟨?_, ?_, ?_⟩
  · have hz' : P.double.z = 2 ^ 3 * (A.y * P.z * P.z) ^ 3 := by
      simp only [double, hy]
      ring
    rw [hz']
    exact mul_ne_zero (pow_ne_zero 3 htwo) (pow_ne_zero 3 (mul_ne_zero (mul_ne_zero hy0 hz) hz))
  · simp only [double, Affine.double, Affine.chord, hgen, hx, hy]
    linear_combination (-2 * A.y * P.z ^ 6 * (2 * A.y * m + 3 * A.x ^ 2)) * hm
  · simp only [double, Affine.double, Affine.chord, hgen, hx, hy]
    linear_combination
      P.z ^ 6 * (9 * A.x ^ 4 + 6 * A.x ^ 2 * A.y * m + 4 * A.y ^ 2 * m ^ 2
        - 12 * A.x * A.y ^ 2) * hm

/-- Doubling the identity gives the identity. -/
theorem Represents.double_none {P : Homogeneous F} (h : P.Represents none) :
    P.double.Represents none := by
  have hz : P.z = 0 := h
  simp only [Represents, double, hz, mul_zero, add_zero]

variable [DecidableEq F]

/-- Adding triples adds two finite points with different abscissas. -/
theorem Represents.add_of_ne {P Q : Homogeneous F} {A B : Affine F} (hP : P.Represents (some A))
    (hQ : Q.Represents (some B)) (hx : A.x ≠ B.x) : (P.add Q).Represents (A.add B) := by
  obtain ⟨hz₁, hx₁, hy₁⟩ := hP
  obtain ⟨hz₂, hx₂, hy₂⟩ := hQ
  have hd : B.x - A.x ≠ 0 := sub_ne_zero.mpr hx.symm
  have hv : Q.x * P.z ≠ P.x * Q.z := by
    rw [hx₁, hx₂]
    intro h
    apply mul_ne_zero hd (mul_ne_zero hz₁ hz₂)
    linear_combination h
  have hm : (B.y - A.y) / (B.x - A.x) * (B.x - A.x) = B.y - A.y := div_mul_cancel₀ _ hd
  generalize hgen : (B.y - A.y) / (B.x - A.x) = m at hm
  simp only [Homogeneous.add, if_neg hz₁, if_neg hz₂, if_neg hv, Affine.add, if_neg hx, hgen,
    Affine.chord]
  refine ⟨?_, ?_, ?_⟩
  · exact mul_ne_zero (mul_ne_zero (sub_ne_zero.mpr hv)
      (mul_ne_zero (sub_ne_zero.mpr hv) (sub_ne_zero.mpr hv))) (mul_ne_zero hz₁ hz₂)
  · simp only [hx₁, hx₂, hy₁, hy₂]
    linear_combination
      (-(P.z * Q.z) ^ 4 * (B.x - A.x) * (B.y - A.y + m * (B.x - A.x))) * hm
  · simp only [hx₁, hx₂, hy₁, hy₂]
    linear_combination
      (-(P.z * Q.z) ^ 4 * (3 * (B.x - A.x) ^ 2 * A.x + (B.x - A.x) ^ 3
        - ((B.y - A.y) ^ 2 + (B.y - A.y) * (m * (B.x - A.x)) + (m * (B.x - A.x)) ^ 2))) * hm

/-- Adding triples adds two finite points with one abscissa. -/
theorem Represents.add_of_eq {P Q : Homogeneous F} {A B : Affine F} (hP : P.Represents (some A))
    (hQ : Q.Represents (some B)) (hx : A.x = B.x) (hA : A.y + A.y ≠ 0) :
    (P.add Q).Represents (A.add B) := by
  have hz₁ := hP.1
  have hz₂ := hQ.1
  have hz : P.z * Q.z ≠ 0 := mul_ne_zero hz₁ hz₂
  have hv : Q.x * P.z = P.x * Q.z := by
    rw [hP.2.1, hQ.2.1, hx]
    ring
  have hu : Q.y * P.z = P.y * Q.z ↔ A.y = B.y := by
    rw [hP.2.2, hQ.2.2]
    constructor
    · intro h
      exact mul_right_cancel₀ hz (by linear_combination -h)
    · intro h
      rw [h]
      ring
  simp only [Homogeneous.add, if_neg hz₁, if_neg hz₂, if_pos hv, hu, Affine.add, if_pos hx]
  split
  · exact hP.double_some hA
  · exact represents_identity

/-- Adding triples adds the points they stand for, the first of which has no vertical tangent. -/
theorem Represents.add {P Q : Homogeneous F} {A B : Point F} (hP : P.Represents A)
    (hQ : Q.Represents B) (hA : ∀ C ∈ A, C.y + C.y ≠ 0) : (P.add Q).Represents (A.add B) := by
  cases B with
  | none =>
    have hz : Q.z = 0 := hQ
    rwa [Homogeneous.add, if_pos hz, Point.add_none]
  | some B =>
    cases A with
    | none =>
      have hz : P.z = 0 := hP
      rwa [Homogeneous.add, if_neg hQ.1, if_pos hz, Point.none_add]
    | some A =>
      by_cases hx : A.x = B.x
      · exact hP.add_of_eq hQ hx (hA A rfl)
      · exact hP.add_of_ne hQ hx

variable {b : F}

/-- Doubling a triple doubles the point of the curve it stands for. -/
theorem Represents.double (hb : Regular b) {P : Homogeneous F} {w : (shortCurve b).Point}
    (h : P.Represents (coordinates w)) : P.double.Represents (coordinates (w + w)) := by
  rw [coordinates_add hb]
  have hne := hb.add_self_ne_zero_of_coordinates w
  generalize coordinates w = A at h hne
  cases A with
  | none => exact h.double_none
  | some A =>
    rw [Point.add, Affine.add, if_pos rfl, if_pos rfl]
    exact h.double_some (hne A rfl)

/-- Multiples of triples stand for multiples of points. -/
theorem Represents.mul (hb : Regular b) (k : ℕ) {P : Homogeneous F} {w : (shortCurve b).Point}
    (h : P.Represents (coordinates w)) : (mul k P).Represents (coordinates (k • w)) := by
  induction k using Nat.strongRecOn generalizing P w with
  | ind k ih =>
    by_cases h0 : k = 0
    · rw [Homogeneous.mul, if_pos h0, h0, zero_nsmul]
      exact represents_identity
    by_cases h1 : k = 1
    · rwa [Homogeneous.mul, if_neg h0, if_pos h1, h1, one_nsmul]
    have hhalf : (Homogeneous.mul (k / 2) P.double).Represents
        (coordinates ((2 * (k / 2)) • w)) := by
      rw [mul_nsmul, two_nsmul]
      exact ih (k / 2) (by omega) (h.double hb)
    rw [Homogeneous.mul, if_neg h0, if_neg h1]
    by_cases hk : k % 2 = 0
    · rw [show 2 * (k / 2) = k by omega] at hhalf
      simpa only [if_pos hk] using hhalf
    · simp only [if_neg hk]
      rw [show k • w = (2 * (k / 2)) • w + w by rw [← succ_nsmul]; congr 1; omega,
        coordinates_add hb]
      exact hhalf.add h (hb.add_self_ne_zero_of_coordinates _)

/-- The comparison of `(n - 1)·P` with `-P` decides whether `n·P` is the identity. -/
theorem hasOrder_iff (hb : Regular b) {n : ℕ} (hn : n ≠ 0) {A : Affine F}
    {w : (shortCurve b).Point} (hw : coordinates w = some A) :
    hasOrder n A = true ↔ n • w = 0 := by
  have hopp : (ofAffine A).neg.normalize = A.neg := by
    simp [ofAffine, neg, normalize, Affine.neg]
  have hsucc : n • w = (n - 1) • w + w := by
    rw [← succ_nsmul]
    congr 1
    omega
  have hmul := Represents.mul hb (n - 1) (hw ▸ represents_ofAffine A)
  rw [hasOrder, decide_eq_true_iff, hopp, hsucc]
  generalize (n - 1) • w = v at hmul
  have hadd : v + w = 0 ↔ coordinates v = some A.neg := by
    rw [add_eq_zero_iff_eq_neg, ← coordinates_injective.eq_iff, coordinates_neg, hw]
    rfl
  rw [hadd]
  generalize coordinates v = B at hmul
  cases B with
  | none =>
    have hy := hb.add_self_ne_zero_of_coordinates w A hw
    rw [hmul.normalize_eq_zero]
    constructor
    · intro h
      have hzero : -A.y = 0 := (congrArg Affine.y h).symm
      exact absurd (by rw [neg_eq_zero.mp hzero, add_zero]) hy
    · intro h
      exact absurd h.symm (Option.some_ne_none _)
  | some B => rw [hmul.normalize_eq, Option.some.injEq]

end Homogeneous

end PolyCommit
