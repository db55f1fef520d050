import PolyCommit.Curve.Point

/-!
# Homogeneous coordinates

The triple `(x, y, z)` with `z ≠ 0` stands for the affine point `(x/z, y/z)`, and `z = 0` for the
identity. Sums and doubles need no quotient, so a long scalar multiple is computed here and brought
back to affine coordinates once. `hasOrder` decides membership in the subgroup of a given order.
-/

namespace PolyCommit

/-- A point by homogeneous coordinates. -/
structure Homogeneous (F : Type) where
  x : F
  y : F
  z : F
  deriving DecidableEq

namespace Homogeneous

variable {F : Type} [Zero F] [One F] [Add F] [Sub F] [Neg F] [Mul F] [Div F] [DecidableEq F]

/-- The representative with last coordinate one. -/
def ofAffine (P : Affine F) : Homogeneous F := ⟨P.x, P.y, 1⟩

/-- The representative of the identity. -/
def identity : Homogeneous F := ⟨1, 1, 0⟩

/-- The affine coordinates; the identity gives the pair of zeros, because `a / 0 = 0`. -/
def normalize (P : Homogeneous F) : Affine F := ⟨P.x / P.z, P.y / P.z⟩

/-- The opposite point. -/
def neg (P : Homogeneous F) : Homogeneous F := ⟨P.x, -P.y, P.z⟩

/-- Twice a point. -/
@[specialize] def double (P : Homogeneous F) : Homogeneous F :=
  let xx := P.x * P.x
  let w := xx + xx + xx
  let s := P.y * P.z
  let b := P.x * P.y * s
  let b2 := b + b
  let b4 := b2 + b2
  let h := w * w - (b4 + b4)
  let ss := s * s
  let hs := h * s
  let yyss := P.y * P.y * ss
  let y2 := yyss + yyss
  let y4 := y2 + y2
  let sss := s * ss
  let s2 := sss + sss
  let s4 := s2 + s2
  ⟨hs + hs, w * (b4 - h) - (y4 + y4), s4 + s4⟩

/-- The sum of two points. -/
@[specialize] def add (P Q : Homogeneous F) : Homogeneous F :=
  if Q.z = 0 then P
  else if P.z = 0 then Q
  else
    let u1 := Q.y * P.z
    let u2 := P.y * Q.z
    let v1 := Q.x * P.z
    let v2 := P.x * Q.z
    if v1 = v2 then
      if u1 = u2 then P.double else identity
    else
      let u := u1 - u2
      let v := v1 - v2
      let vv := v * v
      let vvv2 := vv * v2
      let vvv := v * vv
      let w := P.z * Q.z
      let a := u * u * w - vvv - (vvv2 + vvv2)
      ⟨v * a, u * (vvv2 - a) - vvv * u2, vvv * w⟩

/-- The multiple `k·P`. Every doubling is a `double`, also of a representative of the identity. -/
@[specialize] def mul (k : Nat) (P : Homogeneous F) : Homogeneous F :=
  if k = 0 then identity
  else if k = 1 then P
  else
    let half := mul (k / 2) P.double
    if k % 2 = 0 then half else add half P
termination_by k

/-- Whether `n·P` is the identity, told by comparing `(n - 1)·P` with `-P` in affine coordinates. -/
@[specialize] def hasOrder (n : Nat) (P : Affine F) : Bool :=
  (mul (n - 1) (ofAffine P)).normalize = (ofAffine P).neg.normalize

end Homogeneous

end PolyCommit
