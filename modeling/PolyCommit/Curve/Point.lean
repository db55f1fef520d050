import PolyCommit.Field.Repeated

/-!
# Points in affine coordinates

Chord and tangent arithmetic on pairs of coordinates, with `none` for the identity. The formulas
read no curve constant and check no curve equation, so they are total on all pairs: two points with
one abscissa and different ordinates add up to the identity, and the tangent slope uses the total
quotient of the field.
-/

namespace PolyCommit

/-- A point other than the identity. -/
@[ext] structure Affine (F : Type) where
  x : F
  y : F
  deriving DecidableEq

/-- A point; `none` is the identity. -/
abbrev Point (F : Type) := Option (Affine F)

namespace Affine

variable {F : Type}

/-- The point with the opposite ordinate. -/
def neg [Neg F] (P : Affine F) : Affine F := ⟨P.x, -P.y⟩

variable [Add F] [Sub F] [Mul F] [Div F] [DecidableEq F]

/-- The third point on the line of slope `m` through `P` and a point with abscissa `x₂`, reflected.
-/
@[inline] def chord (m : F) (P : Affine F) (x₂ : F) : Affine F :=
  let x := m * m - P.x - x₂
  ⟨x, m * (P.x - x) - P.y⟩

/-- The tangent slope `3x² / 2y`. -/
@[inline] def tangent (P : Affine F) : F :=
  let s := P.x * P.x
  (s + s + s) / (P.y + P.y)

/-- Twice a point. -/
@[specialize] def double (P : Affine F) : Affine F := chord P.tangent P P.x

/-- The sum of two points other than the identity. -/
@[specialize] def add (P Q : Affine F) : Point F :=
  if P.x = Q.x then
    if P.y = Q.y then some P.double else none
  else some (chord ((Q.y - P.y) / (Q.x - P.x)) P Q.x)

/-- Whether `y² - x³ = b`. -/
@[specialize] def onCurve (b : F) (P : Affine F) : Bool :=
  P.y * P.y - P.x * P.x * P.x = b

end Affine

namespace Point

variable {F : Type}

/-- The opposite point. -/
def neg [Neg F] : Point F → Point F
  | none => none
  | some P => some P.neg

variable [Add F] [Sub F] [Mul F] [Div F] [DecidableEq F]

/-- The sum of two points. -/
@[specialize] def add : Point F → Point F → Point F
  | none, Q => Q
  | some P, none => some P
  | some P, some Q => P.add Q

/-- The identity adds nothing on the left. -/
@[simp] theorem none_add (Q : Point F) : add none Q = Q := by
  cases Q <;> rfl

/-- The identity adds nothing on the right. -/
@[simp] theorem add_none (P : Point F) : add P none = P := by
  cases P <;> rfl

end Point

end PolyCommit
