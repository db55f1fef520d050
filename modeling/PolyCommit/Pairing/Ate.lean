import PolyCommit.Field.Tower
import PolyCommit.Curve.Bn254

/-!
# The ate pairing

A point `(x, y)` of the twist stands for the point `(x·w², y·w³)` over `Fq12`. The loop runs over
the binary digits of `loopCount`, doubling a multiple of the twist point and multiplying the values
of the tangents and chords at the point of the first curve; two chords through the images under the
power `fieldModulus` close it, and a last power lands in the roots of unity of order `groupOrder`.
-/

namespace PolyCommit

namespace Ate

/-- The length of the loop, `6u + 2` for the parameter `u` of the curve family. -/
def loopCount : Nat := 29793968203157093288

/-- The digits of the loop count below the leading one, highest first. -/
def loopDigits : List Bool :=
  (List.range 64).reverse.map loopCount.testBit

/-- `a + b·w + c·w³`, the shape of a line's value. -/
def sparse (a b c : Fq2) : Fq12 := ⟨⟨a, 0, 0⟩, ⟨b, c, 0⟩⟩

/-- The value at `T` of the line through two points of the twist: the chord, the tangent if they
agree, and the vertical if they are opposite. -/
def line (P Q : Affine Fq2) (T : Affine Fq) : Fq12 :=
  let sloped (m : Fq2) : Fq12 := sparse (Fq2.ofFq (-T.y)) (m.scale T.x) (P.y - m * P.x)
  if P.x ≠ Q.x then sloped ((Q.y - P.y) / (Q.x - P.x))
  else if P.y = Q.y then sloped P.tangent
  else ⟨⟨Fq2.ofFq T.x, -P.x, 0⟩, 0⟩

/-- A running multiple of the twist point together with the product of the lines so far. -/
structure Progress where
  point : Point Fq2
  value : Fq12

/-- Multiply in the line from the running point to `Q` and move on to their sum. No line leaves the
identity. -/
def Progress.through (s : Progress) (Q : Affine Fq2) (T : Affine Fq) : Option Progress :=
  s.point.map fun P => ⟨P.add Q, s.value * line P Q T⟩

/-- One digit of the loop. -/
def Progress.digit (s : Progress) (Q : Affine Fq2) (T : Affine Fq) (one : Bool) :
    Option Progress := do
  let P ← s.point
  let s ← Progress.through ⟨P, s.value * s.value⟩ P T
  if one then s.through Q T else some s

/-- `ξ` to the powers `(p-1)/3` and `(p-1)/2`, which carry the twist into its conjugate. -/
def twistX : Fq2 := Fq2.xi.pow ((fieldModulus - 1) / 3)

@[inherit_doc twistX]
def twistY : Fq2 := Fq2.xi.pow ((fieldModulus - 1) / 2)

/-- The image of a point of the twist under the power `fieldModulus` of its coordinates over
`Fq12`. -/
def frobenius (P : Affine Fq2) : Affine Fq2 := ⟨P.x.conj * twistX, P.y.conj * twistY⟩

/-- The product of all lines. -/
def loop (Q : Affine Fq2) (T : Affine Fq) : Option Fq12 := do
  let s ← loopDigits.foldlM (fun s one => Progress.digit s Q T one) ⟨some Q, 1⟩
  let Q₁ := frobenius Q
  let s ← s.through Q₁ T
  let s ← s.through (frobenius Q₁).neg T
  some s.value

/-- The power with exponent `(p¹² - 1)/r`, which is `(p⁶ - 1)·(p² + 1)·((p⁴ - p² + 1)/r)`: the first
two factors cost a quotient and a product, and only the last is a long power. -/
def finalPower (f : Fq12) : Fq12 :=
  let g := f.conj / f
  let h := g.powModulusSq * g
  let square := fieldModulus * fieldModulus
  h.pow ((square * square - square + 1) / groupOrder)

/-- The pairing; `none` when a point is off its curve. The identity pairs to one. -/
def pair (Q : Point Fq2) (T : Point Fq) : Option Fq12 :=
  if Bn254.onTwist Q && Bn254.onCurve₁ T then
    match Q, T with
    | some Q, some T => (loop Q T).map finalPower
    | _, _ => some 1
  else none

end Ate

end PolyCommit
