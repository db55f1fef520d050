import PolyCommit.Value.Arithmetic

/-!
# Windows

Which coefficient meets which power of a key. Coefficients are listed from the highest and powers
from the lowest, so the two places run against each other; an offset drops that many constant terms.
The sum over a window skips the terms whose coefficient is zero.
-/

namespace PolyCommit

namespace Window

/-- The places of coefficient and power for `i = offset + 1, …, degree`: `degree - i` from the
highest coefficient and `i - 1 - offset` from the lowest power. -/
def places (offset degree : Int) : List (Int × Int) :=
  (List.range (degree - offset).toNat).map fun (k : Nat) =>
    let i := offset + 1 + k
    (degree - i, i - 1 - offset)

variable {F : Type}

/-- One term of a sum over a window: the coefficient is looked up and tested before the point is
looked up. -/
def term (G : PointGroup F) (points : List (Point F)) (coeffs : List Value) (sum : Point F)
    (place : Int × Int) : Except Failure (Point F) := do
  let some v := coeffs[place.1.toNat]? | .error .outOfBounds
  let c ← v.number
  if c.toInt = 0 then return sum
  let some P := points[place.2.toNat]? | .error .outOfBounds
  return G.add sum (G.mul c.toInt P)

/-- The sum of the multiples of points over a window. -/
def sum (G : PointGroup F) (points : List (Point F)) (coeffs : List Value) (offset degree : Int) :
    Except Failure (Point F) :=
  (places offset degree).foldlM (term G points coeffs) none

end Window

end PolyCommit
