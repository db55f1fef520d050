import PolyCommit.Field.Bn254

/-!
# The tower above the quadratic extension

`Fq6` is `Fq2[v]/(v³ - ξ)` and `Fq12` is `Fq6[w]/(w² - v)` with `ξ = 9 + i`, so that `w⁶ = ξ` and
`w¹² - 18w⁶ + 82 = 0`. Pairings take their values in `Fq12`.
-/

namespace PolyCommit

/-- `a0 + a1·v + a2·v²` with `v³ = ξ`. -/
@[ext] structure Fq6 where
  a0 : Fq2
  a1 : Fq2
  a2 : Fq2
  deriving DecidableEq

namespace Fq6

instance : Zero Fq6 := ⟨⟨0, 0, 0⟩⟩
instance : One Fq6 := ⟨⟨1, 0, 0⟩⟩
instance : Add Fq6 := ⟨fun a b => ⟨a.a0 + b.a0, a.a1 + b.a1, a.a2 + b.a2⟩⟩
instance : Sub Fq6 := ⟨fun a b => ⟨a.a0 - b.a0, a.a1 - b.a1, a.a2 - b.a2⟩⟩

/-- `v` times an element. -/
def mulByV (a : Fq6) : Fq6 := ⟨Fq2.xi * a.a2, a.a0, a.a1⟩

/-- Products by the three squares and three cross sums. -/
instance : Mul Fq6 := ⟨fun a b =>
  let t0 := a.a0 * b.a0
  let t1 := a.a1 * b.a1
  let t2 := a.a2 * b.a2
  let s12 := (a.a1 + a.a2) * (b.a1 + b.a2) - t1 - t2
  let s01 := (a.a0 + a.a1) * (b.a0 + b.a1) - t0 - t1
  let s02 := (a.a0 + a.a2) * (b.a0 + b.a2) - t0 - t2
  ⟨t0 + Fq2.xi * s12, s01 + Fq2.xi * t2, s02 + t1⟩⟩

instance : Neg Fq6 := ⟨fun a => ⟨-a.a0, -a.a1, -a.a2⟩⟩

/-- The inverse: the adjugate of multiplication by the element over its norm. -/
def inv (a : Fq6) : Fq6 :=
  let c0 := a.a0 * a.a0 - Fq2.xi * (a.a1 * a.a2)
  let c1 := Fq2.xi * (a.a2 * a.a2) - a.a0 * a.a1
  let c2 := a.a1 * a.a1 - a.a0 * a.a2
  let norm := (Fq2.xi * (a.a2 * c1 + a.a1 * c2) + a.a0 * c0).inv
  ⟨c0 * norm, c1 * norm, c2 * norm⟩

end Fq6

/-- `b0 + b1·w` with `w² = v`. -/
@[ext] structure Fq12 where
  b0 : Fq6
  b1 : Fq6
  deriving DecidableEq

namespace Fq12

instance : Zero Fq12 := ⟨⟨0, 0⟩⟩
instance : One Fq12 := ⟨⟨1, 0⟩⟩
instance : Inhabited Fq12 := ⟨0⟩

instance : Mul Fq12 := ⟨fun a b =>
  let t0 := a.b0 * b.b0
  let t1 := a.b1 * b.b1
  ⟨t0 + t1.mulByV, (a.b0 + a.b1) * (b.b0 + b.b1) - t0 - t1⟩⟩

/-- The `k`-th power. -/
def pow (a : Fq12) (k : Nat) : Fq12 := repeated (· * ·) 1 k a

/-- The conjugate `b0 - b1·w`, which is also the power with exponent `p⁶`. -/
def conj (a : Fq12) : Fq12 := ⟨a.b0, -a.b1⟩

/-- The inverse: the conjugate over the norm `b0² - v·b1²`. -/
def inv (a : Fq12) : Fq12 :=
  let norm := (a.b0 * a.b0 - (a.b1 * a.b1).mulByV).inv
  ⟨a.b0 * norm, -(a.b1 * norm)⟩

instance : Div Fq12 := ⟨fun a b => a * b.inv⟩

/-- The sixth root of unity `ξ^((p²-1)/6)`, which is what the power `p²` multiplies `w` by. -/
def sixthRoot : Fq2 := Fq2.xi.pow ((fieldModulus * fieldModulus - 1) / 6)

/-- The power with exponent `p²`: the coefficient of `wᵏ` is multiplied by the `k`-th power of the
sixth root of unity. -/
def powModulusSq (a : Fq12) : Fq12 :=
  let g := sixthRoot
  let g2 := g * g
  let g3 := g2 * g
  let g4 := g2 * g2
  ⟨⟨a.b0.a0, a.b0.a1 * g2, a.b0.a2 * g4⟩, ⟨a.b1.a0 * g, a.b1.a1 * g3, a.b1.a2 * (g4 * g)⟩⟩

/-- The coefficients of `1, w, …, w⁵` over the quadratic extension. -/
def overFq2 (a : Fq12) : List Fq2 :=
  [a.b0.a0, a.b1.a0, a.b0.a1, a.b1.a1, a.b0.a2, a.b1.a2]

/-- The coefficients of `1, w, …, w¹¹` over the coordinate field: since `i = w⁶ - 9`, the element
`c0 + c1·i` contributes `c0 - 9·c1` at its place and `c1` six places up. -/
def coefficients (a : Fq12) : List Fq :=
  a.overFq2.map (fun c => c.c0 - Residue.ofNat 9 * c.c1) ++ a.overFq2.map (·.c1)

end Fq12

end PolyCommit
