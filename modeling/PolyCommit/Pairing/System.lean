import PolyCommit.Curve.PointGroup
import PolyCommit.Pairing.Ate

/-!
# Pairing systems

Two groups of points and a pairing of them. The commitment scheme is written for any such system, so
that what it needs of the groups and of the pairing can be said apart from the curves.
-/

namespace PolyCommit

/-- Two groups of points with a pairing into `T`. The pairing has no value when a point is not on
its curve. -/
structure PairingSystem (T : Type) where
  g₁ : PointGroup Fq
  g₂ : PointGroup Fq2
  pair : Point Fq2 → Point Fq → Option T

/-- The curve pair with the ate pairing. -/
def bn254 : PairingSystem Fq12 where
  g₁ := Bn254.group₁
  g₂ := Bn254.group₂
  pair := Ate.pair

end PolyCommit
