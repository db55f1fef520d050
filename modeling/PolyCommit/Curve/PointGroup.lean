import PolyCommit.Curve.Bn254

/-!
# Groups of points

The operations of a group of points, gathered in a record: everything above uses a group through its
record alone. Scalar multiples reduce the scalar modulo `groupOrder` first, which is right for the
members of the group, whose orders divide it.
-/

namespace PolyCommit

/-- A group of points with coordinates in `F`, in which `none` is the identity. -/
structure PointGroup (F : Type) where
  base : Point F
  add : Point F → Point F → Point F
  neg : Point F → Point F
  contains : Point F → Bool

namespace PointGroup

variable {F : Type}

/-- The sum of `k` copies of a point. -/
def multiple (G : PointGroup F) (k : Nat) (P : Point F) : Point F := repeated G.add none k P

/-- The multiple of a point by an integer, reduced modulo `groupOrder`. -/
def mul (G : PointGroup F) (k : Int) (P : Point F) : Point F :=
  G.multiple (k % groupOrder).toNat P

/-- The multiple of a point by a scalar. -/
def scale (G : PointGroup F) (k : Fr) (P : Point F) : Point F := G.mul k.val P

/-- The difference of two points. -/
def sub (G : PointGroup F) (P Q : Point F) : Point F := G.add P (G.neg Q)

/-- A representative is already reduced. -/
theorem scale_eq_multiple (G : PointGroup F) (k : Fr) (P : Point F) :
    G.scale k P = G.multiple k.val P := by
  have h := k.isLt
  rw [scale, mul, Int.emod_eq_of_lt (by omega) (by omega), Int.toNat_natCast]

end PointGroup

namespace Bn254

/-- The points of the first curve. -/
def group₁ : PointGroup Fq where
  base := some base₁
  add := Point.add
  neg := Point.neg
  contains := onCurve₁

/-- The points of the twist whose order divides `groupOrder`. -/
def group₂ : PointGroup Fq2 where
  base := some base₂
  add := Point.add
  neg := Point.neg
  contains := inSubgroup₂

end Bn254

end PolyCommit
