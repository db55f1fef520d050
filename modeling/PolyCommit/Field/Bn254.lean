import PolyCommit.Field.Residue

/-!
# The fields of the curve pair

`Fr` is the field of scalars, `Fq` the field of coordinates of the first curve, and `Fq2` the
quadratic extension by a square root of minus one, where the coordinates of the second curve live.
Every inverse is total, with zero for zero.
-/

namespace PolyCommit

/-- The number of points of the first curve, which is the order of both groups. -/
def groupOrder : Nat :=
  21888242871839275222246405745257275088548364400416034343698204186575808495617

/-- The characteristic of the coordinate fields. -/
def fieldModulus : Nat :=
  21888242871839275222246405745257275088696311157297823662689037894645226208583

instance : Modulus groupOrder := ⟨Nat.succ_pos _⟩
instance : Modulus fieldModulus := ⟨Nat.succ_pos _⟩

/-- Scalars: polynomial coefficients, evaluation points and the hidden point of a key. -/
abbrev Fr := Residue groupOrder

/-- Coordinates of the first curve. -/
abbrev Fq := Residue fieldModulus

/-- `c0 + c1·i` with `i² = -1`: coordinates of the second curve. -/
@[ext] structure Fq2 where
  c0 : Fq
  c1 : Fq
  deriving DecidableEq

namespace Fq2

/-- A coordinate of the first curve seen in the extension. -/
def ofFq (a : Fq) : Fq2 := ⟨a, 0⟩

instance : Zero Fq2 := ⟨⟨0, 0⟩⟩
instance : One Fq2 := ⟨⟨1, 0⟩⟩
instance : Inhabited Fq2 := ⟨0⟩
instance : Add Fq2 := ⟨fun a b => ⟨a.c0 + b.c0, a.c1 + b.c1⟩⟩
instance : Neg Fq2 := ⟨fun a => ⟨-a.c0, -a.c1⟩⟩
instance : Sub Fq2 := ⟨fun a b => ⟨a.c0 - b.c0, a.c1 - b.c1⟩⟩
instance : Mul Fq2 := ⟨fun a b =>
  ⟨.sumOfProducts a.c0 b.c0 (-a.c1) b.c1, .sumOfProducts a.c0 b.c1 a.c1 b.c0⟩⟩

/-- The conjugate `c0 - c1·i`, which is also the power with exponent `fieldModulus`. -/
def conj (a : Fq2) : Fq2 := ⟨a.c0, -a.c1⟩

/-- A product with a coordinate of the first curve. -/
def scale (k : Fq) (a : Fq2) : Fq2 := ⟨k * a.c0, k * a.c1⟩

/-- The inverse: the conjugate over the norm `c0² + c1²`. -/
def inv (a : Fq2) : Fq2 := scale (a.c0 * a.c0 + a.c1 * a.c1).inv a.conj

instance : Div Fq2 := ⟨fun a b => a * b.inv⟩

/-- The `k`-th power. -/
def pow (a : Fq2) (k : Nat) : Fq2 := repeated (· * ·) 1 k a

/-- `9 + i`, which is neither a square nor a cube: it defines the twist and the towers above. -/
def xi : Fq2 := ⟨Residue.ofNat 9, 1⟩

end Fq2

end PolyCommit
