import PolyCommit.Curve.Point
import Mathlib.AlgebraicGeometry.EllipticCurve.Affine.Point
import Mathlib.Tactic.LinearCombination

/-!
# Chord and tangent arithmetic is the group law

On the points of `y² = x³ + b` the total formulas for sums compute the group law of the Weierstrass
curve. The formulas have no case for a vertical tangent, so this needs a curve without points of
ordinate zero: two is not zero, and `-b` is no cube. Both are gathered in `Regular`.
-/

namespace PolyCommit

open WeierstrassCurve.Affine (negY addX addY negAddY slope)

variable {F : Type} [Field F]

/-- The curve `y² = x³ + b`. -/
def shortCurve (b : F) : WeierstrassCurve.Affine F := ⟨0, 0, 0, 0, b⟩

/-- No point of the curve `y² = x³ + b` has ordinate zero, so that none is its own opposite. -/
structure Regular (b : F) : Prop where
  two_ne_zero : (2 : F) ≠ 0
  cube_ne : ∀ x : F, x ^ 3 ≠ -b

variable {b : F}

/-- The equation of the curve in short form. -/
theorem shortCurve_equation_iff (x y : F) :
    (shortCurve b).Equation x y ↔ y * y - x * x * x = b := by
  rw [WeierstrassCurve.Affine.equation_iff]
  simp only [shortCurve, zero_mul, add_zero]
  constructor
  · intro h
    linear_combination h
  · intro h
    linear_combination h

namespace Regular

/-- The ordinate of a point is not zero. -/
theorem ordinate_ne_zero (hb : Regular b) {x y : F} (h : y * y - x * x * x = b) : y ≠ 0 := by
  intro hy
  apply hb.cube_ne x
  rw [hy] at h
  linear_combination -h

/-- Twice the ordinate of a point is not zero. -/
theorem add_self_ne_zero (hb : Regular b) {x y : F} (h : y * y - x * x * x = b) : y + y ≠ 0 := by
  rw [← two_mul]
  exact mul_ne_zero hb.two_ne_zero (hb.ordinate_ne_zero h)

/-- Every point that satisfies the equation is nonsingular. -/
theorem nonsingular (hb : Regular b) {x y : F} (h : y * y - x * x * x = b) :
    (shortCurve b).Nonsingular x y := by
  rw [WeierstrassCurve.Affine.nonsingular_iff]
  refine ⟨(shortCurve_equation_iff x y).mpr h, Or.inr ?_⟩
  intro hy
  apply hb.add_self_ne_zero h
  simp only [shortCurve, zero_mul, sub_zero] at hy
  linear_combination hy

end Regular

/-- The coordinates of a point of the curve. -/
def coordinates : (shortCurve b).Point → Point F
  | .zero => none
  | .some x y _ => some ⟨x, y⟩

/-- The identity has no coordinates. -/
@[simp] theorem coordinates_zero : coordinates (0 : (shortCurve b).Point) = none := rfl

/-- The coordinates of a point other than the identity. -/
@[simp] theorem coordinates_some {x y : F} (h : (shortCurve b).Nonsingular x y) :
    coordinates (.some x y h) = some ⟨x, y⟩ := rfl

/-- A point is determined by its coordinates. -/
theorem coordinates_injective :
    Function.Injective (coordinates : (shortCurve b).Point → Point F) := by
  rintro (_ | ⟨x, y, h⟩) (_ | ⟨x', y', h'⟩) heq
  · rfl
  · exact absurd heq.symm (Option.some_ne_none _)
  · exact absurd heq (Option.some_ne_none _)
  · simp only [coordinates, Option.some.injEq, Affine.mk.injEq] at heq
    obtain ⟨rfl, rfl⟩ := heq
    rfl

/-- Every point but the identity has coordinates. -/
theorem exists_coordinates_eq_some {w : (shortCurve b).Point} (hw : w ≠ 0) :
    ∃ P, coordinates w = some P :=
  Option.ne_none_iff_exists'.mp fun h =>
    hw (coordinates_injective (h.trans coordinates_zero.symm))

/-- No point of a regular curve has a vertical tangent. -/
theorem Regular.add_self_ne_zero_of_coordinates (hb : Regular b) (w : (shortCurve b).Point) :
    ∀ C ∈ coordinates w, C.y + C.y ≠ 0 := by
  rintro C hC
  cases w with
  | zero => exact absurd hC (Option.not_mem_none C)
  | some x y h =>
    obtain rfl := Option.some.inj hC
    exact hb.add_self_ne_zero ((shortCurve_equation_iff x y).mp h.1)

/-- The coordinates of an opposite are opposite. -/
theorem coordinates_neg (w : (shortCurve b).Point) :
    coordinates (-w) = (coordinates w).neg := by
  cases w with
  | zero => rfl
  | some x y h =>
    have hy : (shortCurve b).negY x y = -y := by simp [negY, shortCurve]
    rw [WeierstrassCurve.Affine.Point.neg_some, coordinates_some, coordinates_some, hy]
    rfl

variable [DecidableEq F]

/-- The coordinates of a finite sum, from the slope of the line. -/
private theorem coordinates_add_some {x₁ y₁ x₂ y₂ m : F} {h₁ : (shortCurve b).Nonsingular x₁ y₁}
    {h₂ : (shortCurve b).Nonsingular x₂ y₂} (hxy : ¬(x₁ = x₂ ∧ y₁ = (shortCurve b).negY x₂ y₂))
    (hm : (shortCurve b).slope x₁ x₂ y₁ y₂ = m) :
    coordinates (.some x₁ y₁ h₁ + .some x₂ y₂ h₂) = some (Affine.chord m ⟨x₁, y₁⟩ x₂) := by
  rw [WeierstrassCurve.Affine.Point.add_some hxy, coordinates_some, hm, Option.some.injEq]
  have hx : (shortCurve b).addX x₁ x₂ m = m * m - x₁ - x₂ := by
    simp only [addX, shortCurve]
    ring
  ext
  · exact hx
  · simp only [addY, negY, negAddY, hx, Affine.chord]
    simp only [shortCurve]
    ring

/-- The formulas compute the sum of two points of the curve. -/
theorem coordinates_add (hb : Regular b) (v w : (shortCurve b).Point) :
    coordinates (v + w) = (coordinates v).add (coordinates w) := by
  rcases v with _ | ⟨x₁, y₁, h₁⟩
  · change coordinates (0 + w) = Point.add none (coordinates w)
    rw [zero_add, Point.none_add]
  rcases w with _ | ⟨x₂, y₂, h₂⟩
  · change coordinates (.some x₁ y₁ h₁ + 0) = Point.add (coordinates (.some x₁ y₁ h₁)) none
    rw [add_zero, Point.add_none]
  have hc₁ := (shortCurve_equation_iff x₁ y₁).mp h₁.1
  have hc₂ := (shortCurve_equation_iff x₂ y₂).mp h₂.1
  have hneg : (shortCurve b).negY x₂ y₂ = -y₂ := by simp [negY, shortCurve]
  simp only [coordinates_some, Point.add, Affine.add]
  by_cases hx : x₁ = x₂
  · subst hx
    rw [if_pos rfl]
    by_cases hy : y₁ = y₂
    · subst hy
      have hne : y₁ ≠ (shortCurve b).negY x₁ y₁ := by
        rw [hneg]
        intro h
        exact hb.add_self_ne_zero hc₁ (by linear_combination h)
      rw [if_pos rfl]
      refine coordinates_add_some (fun h => hne h.2) ?_
      rw [WeierstrassCurve.Affine.slope_of_Y_ne rfl hne, hneg]
      simp only [shortCurve, Affine.tangent]
      congr 1 <;> ring
    · have hopp : y₁ = (shortCurve b).negY x₁ y₂ :=
        (WeierstrassCurve.Affine.Y_eq_of_X_eq h₁.1 h₂.1 rfl).resolve_left hy
      rw [if_neg hy, WeierstrassCurve.Affine.Point.add_of_Y_eq rfl hopp, coordinates_zero]
  · rw [if_neg hx]
    refine coordinates_add_some (fun h => hx h.1) ?_
    rw [WeierstrassCurve.Affine.slope_of_X_ne hx, ← neg_div_neg_eq, neg_sub, neg_sub]

/-- Whether a point satisfies the equation of the curve; the identity does. -/
def Point.onCurve (b : F) : Point F → Bool
  | none => true
  | some P => P.onCurve b

/-- The points that satisfy the equation are the points of the curve. -/
theorem onCurve_iff (hb : Regular b) (P : Point F) :
    P.onCurve b = true ↔ ∃ w : (shortCurve b).Point, coordinates w = P := by
  constructor
  · intro h
    cases P with
    | none => exact ⟨0, rfl⟩
    | some P => exact ⟨.some P.x P.y (hb.nonsingular (of_decide_eq_true h)), rfl⟩
  · rintro ⟨_ | ⟨x, y, h⟩, rfl⟩
    · rfl
    · exact decide_eq_true ((shortCurve_equation_iff x y).mp h.1)

end PolyCommit
