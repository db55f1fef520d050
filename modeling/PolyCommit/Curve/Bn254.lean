import PolyCommit.Field.Bn254
import PolyCommit.Curve.Homogeneous

/-!
# The curve pair

The first curve is `y² = x³ + 3` over `Fq`; all of its points have order dividing `groupOrder`. The
second is the twist `y² = x³ + 3/ξ` over `Fq2`; its points of order dividing `groupOrder` form a
proper subgroup, so membership there needs a multiple and not just the equation.
-/

namespace PolyCommit

namespace Bn254

/-- The constant of the first curve. -/
def curveB : Fq := Residue.ofNat 3

/-- The constant of the twist. -/
def twistB : Fq2 := Fq2.ofFq (Residue.ofNat 3) / Fq2.xi

/-- The standard generator on the first curve. -/
def base₁ : Affine Fq := ⟨Residue.ofNat 1, Residue.ofNat 2⟩

/-- The standard generator of the subgroup on the twist. -/
def base₂ : Affine Fq2 where
  x :=
    ⟨Residue.ofNat 10857046999023057135944570762232829481370756359578518086990519993285655852781,
      Residue.ofNat 11559732032986387107991004021392285783925812861821192530917403151452391805634⟩
  y :=
    ⟨Residue.ofNat 8495653923123431417604973247489272438418190587263600148770280649306958101930,
      Residue.ofNat 4082367875863433681332203403145435568316851327593401208105741076214120093531⟩

/-- The identity and the points of the first curve. -/
def onCurve₁ : Point Fq → Bool
  | none => true
  | some P => P.onCurve curveB

/-- The identity and the points of the twist, of whatever order. -/
def onTwist : Point Fq2 → Bool
  | none => true
  | some P => P.onCurve twistB

/-- The identity and the points of the twist whose order divides `groupOrder`. -/
def inSubgroup₂ : Point Fq2 → Bool
  | none => true
  | some P => P.onCurve twistB && Homogeneous.hasOrder groupOrder P

end Bn254

end PolyCommit
