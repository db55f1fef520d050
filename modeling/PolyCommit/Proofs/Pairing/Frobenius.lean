import PolyCommit.Pairing.Ate
import PolyCommit.Proofs.Curve.Bn254

/-!
# The Frobenius endomorphism of the twist

The chords that close the pairing go through images of its point under the power `fieldModulus`. On
the twist that power conjugates both coordinates and multiplies them by the square and the cube of
one constant. The chord and tangent formulas commute with every map of this shape, so this one is an
endomorphism of the second group. Applied six times it gives the opposite point, hence a scalar by
which it multiplies a point has the sixth power minus one.
-/

namespace PolyCommit

/-! ### Maps that the formulas commute with -/

namespace Affine

variable {F : Type} [Field F] {σ : F →+* F} {u : F}

/-- A homomorphism on both coordinates, followed by multiplication by the square and the cube of a
constant. -/
def twisted (σ : F →+* F) (u : F) (P : Affine F) : Affine F := ⟨σ P.x * u ^ 2, σ P.y * u ^ 3⟩

/-- The chord through twisted points leads to a twisted point. -/
theorem chord_twisted (m : F) (P : Affine F) (x₂ : F) :
    chord (σ m * u) (P.twisted σ u) (σ x₂ * u ^ 2) = (chord m P x₂).twisted σ u := by
  ext
  · simp only [chord, twisted, map_sub, map_mul]
    ring
  · simp only [chord, twisted, map_sub, map_mul]
    ring

/-- The tangent at a twisted point is twisted. -/
theorem tangent_twisted (hu : u ≠ 0) (P : Affine F) :
    (P.twisted σ u).tangent = σ P.tangent * u := by
  simp only [tangent, twisted, map_div₀, map_add, map_mul]
  rw [div_mul_eq_mul_div, ← mul_div_mul_right _ (σ P.y + σ P.y) (pow_ne_zero 3 hu)]
  congr 1
  · ring
  · ring

/-- If the homomorphism is an involution, two maps multiply by powers of one constant. -/
theorem twisted_twisted (hσ : ∀ a, σ (σ a) = a) (P : Affine F) :
    (P.twisted σ u).twisted σ u = ⟨P.x * (σ u * u) ^ 2, P.y * (σ u * u) ^ 3⟩ := by
  ext
  · simp only [twisted, map_mul, map_pow, hσ]
    ring
  · simp only [twisted, map_mul, map_pow, hσ]
    ring

/-- If that constant has the cube minus one, six maps give the opposite. -/
theorem twisted_iterate_six (hσ : ∀ a, σ (σ a) = a) (hu : (σ u * u) ^ 3 = -1) (P : Affine F) :
    (twisted σ u)^[6] P = P.neg := by
  have htwo (P : Affine F) : (P.twisted σ u).twisted σ u = ⟨P.x * (σ u * u) ^ 2, -P.y⟩ := by
    rw [twisted_twisted hσ, hu, mul_neg_one]
  change ((((((P.twisted σ u).twisted σ u).twisted σ u).twisted σ u).twisted σ u).twisted σ u) = _
  rw [htwo, htwo, htwo]
  ext
  · simp only [neg]
    linear_combination P.x * ((σ u * u) ^ 3 - 1) * hu
  · simp only [neg, neg_neg]

variable [DecidableEq F]

/-- A point of a curve whose constant the map keeps goes to a point of the curve. -/
theorem onCurve_twisted {b : F} (hb : σ b * u ^ 6 = b) {P : Affine F} (h : P.onCurve b = true) :
    (P.twisted σ u).onCurve b = true := by
  have hσ := congrArg σ (of_decide_eq_true h)
  simp only [map_sub, map_mul] at hσ
  apply decide_eq_true
  simp only [twisted]
  linear_combination u ^ 6 * hσ + hb

/-- The formulas for sums commute with the map. -/
theorem add_twisted (hu : u ≠ 0) (P Q : Affine F) :
    (P.twisted σ u).add (Q.twisted σ u) = (P.add Q).map (twisted σ u) := by
  have hx : (P.twisted σ u).x = (Q.twisted σ u).x ↔ P.x = Q.x :=
    (mul_left_inj' (pow_ne_zero 2 hu)).trans σ.injective.eq_iff
  have hy : (P.twisted σ u).y = (Q.twisted σ u).y ↔ P.y = Q.y :=
    (mul_left_inj' (pow_ne_zero 3 hu)).trans σ.injective.eq_iff
  simp only [add, hx, hy]
  split
  · split
    · rw [Option.map_some, double, double, tangent_twisted hu]
      exact congrArg some (chord_twisted P.tangent P P.x)
    · rfl
  · have hslope :
        ((Q.twisted σ u).y - (P.twisted σ u).y) / ((Q.twisted σ u).x - (P.twisted σ u).x) =
          σ ((Q.y - P.y) / (Q.x - P.x)) * u := by
      simp only [twisted, map_div₀, map_sub]
      rw [← sub_mul, ← sub_mul, div_mul_eq_mul_div,
        ← mul_div_mul_right _ (σ Q.x - σ P.x) (pow_ne_zero 2 hu)]
      congr 1
      ring
    rw [Option.map_some, hslope]
    exact congrArg some (chord_twisted _ P Q.x)

end Affine

/-! ### Conjugation -/

namespace Fq2

/-- Conjugation is a homomorphism of the field. -/
def conjHom : Fq2 →+* Fq2 where
  toFun := conj
  map_one' := by ext1 <;> simp [conj]
  map_mul' a b := by ext1 <;> simp [conj, add_comm]
  map_zero' := by ext1 <;> simp [conj]
  map_add' a b := by ext1 <;> simp [conj, add_comm]

/-- Conjugation undoes itself. -/
theorem conjHom_conjHom (a : Fq2) : conjHom (conjHom a) = a := by
  ext1 <;> simp [conjHom, conj]

end Fq2

/-! ### The endomorphism -/

namespace Ate

open Bn254

/-- The constant whose square and cube are those of the map. -/
def twistRoot : Fq2 := Fq2.xi ^ ((fieldModulus - 1) / 6)

/-- The factor of the twist is not zero. -/
theorem twistRoot_ne_zero : twistRoot ≠ 0 := pow_ne_zero _ (by decide)

/-- Its norm is a primitive sixth root of unity. -/
theorem norm_twistRoot : (Fq2.conjHom twistRoot * twistRoot) ^ 3 = -1 := by
  rw [twistRoot, ← Fq2.pow_eq, ← Fq2.pow_eq]
  decide +kernel

/-- Its sixth power takes the conjugate of the constant of the twist back to the constant. -/
theorem conjHom_twistB : Fq2.conjHom twistB * twistRoot ^ 6 = twistB := by
  rw [twistRoot, ← pow_mul, ← Fq2.pow_eq]
  decide +kernel

/-- The Frobenius map is the twist by conjugation and that factor. -/
theorem frobenius_eq (P : Affine Fq2) : frobenius P = P.twisted Fq2.conjHom twistRoot := by
  have hx : twistX = twistRoot ^ 2 := by
    rw [twistX, twistRoot, Fq2.pow_eq, ← pow_mul]
    congr 1
  have hy : twistY = twistRoot ^ 3 := by
    rw [twistY, twistRoot, Fq2.pow_eq, ← pow_mul]
    congr 1
  rw [frobenius, hx, hy]
  rfl

/-- The image of a point of the twist is on the twist. -/
theorem onCurve_frobenius {P : Affine Fq2} (h : P.onCurve twistB = true) :
    (frobenius P).onCurve twistB = true := by
  rw [frobenius_eq]
  exact Affine.onCurve_twisted conjHom_twistB h

/-- Applied six times the map gives the opposite. -/
theorem frobenius_iterate_six (P : Affine Fq2) : frobenius^[6] P = P.neg := by
  rw [funext frobenius_eq]
  exact Affine.twisted_iterate_six Fq2.conjHom_conjHom norm_twistRoot P

/-- The image of a point of the curve. -/
def frobeniusPoint : (shortCurve twistB).Point → (shortCurve twistB).Point
  | .zero => 0
  | .some x y h => .some (frobenius ⟨x, y⟩).x (frobenius ⟨x, y⟩).y <|
      twistB_regular.nonsingular <| of_decide_eq_true <| onCurve_frobenius <| decide_eq_true <|
        (shortCurve_equation_iff x y).mp h.1

/-- The coordinates are mapped by the Frobenius map. -/
theorem coordinates_frobeniusPoint (w : (shortCurve twistB).Point) :
    coordinates (frobeniusPoint w) = (coordinates w).map frobenius := by
  cases w <;> rfl

/-- The map respects sums, as it commutes with the formulas for them. -/
theorem frobeniusPoint_add (v w : (shortCurve twistB).Point) :
    frobeniusPoint (v + w) = frobeniusPoint v + frobeniusPoint w := by
  apply coordinates_injective
  rw [coordinates_add twistB_regular, coordinates_frobeniusPoint, coordinates_frobeniusPoint,
    coordinates_frobeniusPoint, coordinates_add twistB_regular]
  generalize coordinates v = P
  generalize coordinates w = Q
  cases P with
  | none => simp
  | some P =>
    cases Q with
    | none => simp
    | some Q =>
      simp only [Option.map_some, Point.add, funext frobenius_eq]
      exact (Affine.add_twisted twistRoot_ne_zero P Q).symm

/-- The Frobenius endomorphism of the twist. -/
def frobeniusHom : (shortCurve twistB).Point →+ (shortCurve twistB).Point :=
  .mk' frobeniusPoint frobeniusPoint_add

/-- The homomorphism maps the coordinates by the Frobenius map. -/
theorem coordinates_frobeniusHom (w : (shortCurve twistB).Point) :
    coordinates (frobeniusHom w) = (coordinates w).map frobenius :=
  coordinates_frobeniusPoint w

/-- The Frobenius map six times over takes a point to its opposite. -/
theorem frobeniusHom_iterate_six (w : (shortCurve twistB).Point) : frobeniusHom^[6] w = -w := by
  have hiterate : coordinates (frobeniusHom^[6] w) = (Option.map frobenius)^[6] (coordinates w) :=
    Function.Semiconj.iterate_right coordinates_frobeniusHom 6 w
  apply coordinates_injective
  rw [hiterate, coordinates_neg]
  cases coordinates w with
  | none => rfl
  | some P => exact congrArg some (frobenius_iterate_six P)

/-- A point that the endomorphism multiplies by a number is annihilated by the sixth power of the
number plus one. -/
theorem zsmul_eq_zero_of_frobeniusHom {w : (shortCurve twistB).Point} {k : ℤ}
    (h : frobeniusHom w = k • w) : (k ^ 6 + 1) • w = 0 := by
  have hiterate (n : ℕ) : frobeniusHom^[n] w = k ^ n • w := by
    induction n with
    | zero => rw [pow_zero, one_zsmul]; rfl
    | succ n ih => rw [Function.iterate_succ_apply', ih, map_zsmul, h, ← mul_zsmul, pow_succ]
  rw [add_zsmul, one_zsmul, ← hiterate, frobeniusHom_iterate_six, neg_add_cancel]

end Ate

end PolyCommit
