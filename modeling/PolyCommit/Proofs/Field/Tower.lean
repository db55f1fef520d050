import PolyCommit.Field.Tower
import PolyCommit.Proofs.Field.Quadratic

/-!
# Products in the tower

The products of `Fq6` and `Fq12` take fewer factors than there are pairs of coefficients. Written
out, their coefficients are those of polynomials with `v³ = ξ` and `w² = v`, and so the laws of a
product hold: `Fq6` is a commutative ring and the values of a pairing multiply in any order.
-/

namespace PolyCommit

namespace Fq6

/-- The first coefficient of zero. -/
@[simp] theorem a0_zero : (0 : Fq6).a0 = 0 := rfl

/-- The second coefficient of zero. -/
@[simp] theorem a1_zero : (0 : Fq6).a1 = 0 := rfl

/-- The third coefficient of zero. -/
@[simp] theorem a2_zero : (0 : Fq6).a2 = 0 := rfl

/-- The first coefficient of one. -/
@[simp] theorem a0_one : (1 : Fq6).a0 = 1 := rfl

/-- The second coefficient of one. -/
@[simp] theorem a1_one : (1 : Fq6).a1 = 0 := rfl

/-- The third coefficient of one. -/
@[simp] theorem a2_one : (1 : Fq6).a2 = 0 := rfl

/-- The first coefficient of a sum. -/
@[simp] theorem a0_add (a b : Fq6) : (a + b).a0 = a.a0 + b.a0 := rfl

/-- The second coefficient of a sum. -/
@[simp] theorem a1_add (a b : Fq6) : (a + b).a1 = a.a1 + b.a1 := rfl

/-- The third coefficient of a sum. -/
@[simp] theorem a2_add (a b : Fq6) : (a + b).a2 = a.a2 + b.a2 := rfl

/-- The first coefficient of a difference. -/
@[simp] theorem a0_sub (a b : Fq6) : (a - b).a0 = a.a0 - b.a0 := rfl

/-- The second coefficient of a difference. -/
@[simp] theorem a1_sub (a b : Fq6) : (a - b).a1 = a.a1 - b.a1 := rfl

/-- The third coefficient of a difference. -/
@[simp] theorem a2_sub (a b : Fq6) : (a - b).a2 = a.a2 - b.a2 := rfl

/-- The first coefficient of an opposite. -/
@[simp] theorem a0_neg (a : Fq6) : (-a).a0 = -a.a0 := rfl

/-- The second coefficient of an opposite. -/
@[simp] theorem a1_neg (a : Fq6) : (-a).a1 = -a.a1 := rfl

/-- The third coefficient of an opposite. -/
@[simp] theorem a2_neg (a : Fq6) : (-a).a2 = -a.a2 := rfl

/-- The first coefficient of a product. -/
@[simp] theorem a0_mul (a b : Fq6) :
    (a * b).a0 = a.a0 * b.a0 + Fq2.xi * (a.a1 * b.a2 + a.a2 * b.a1) := by
  change a.a0 * b.a0 + Fq2.xi * ((a.a1 + a.a2) * (b.a1 + b.a2) - a.a1 * b.a1 - a.a2 * b.a2) = _
  ring

/-- The second coefficient of a product. -/
@[simp] theorem a1_mul (a b : Fq6) :
    (a * b).a1 = a.a0 * b.a1 + a.a1 * b.a0 + Fq2.xi * (a.a2 * b.a2) := by
  change (a.a0 + a.a1) * (b.a0 + b.a1) - a.a0 * b.a0 - a.a1 * b.a1 + Fq2.xi * (a.a2 * b.a2) = _
  ring

/-- The third coefficient of a product. -/
@[simp] theorem a2_mul (a b : Fq6) :
    (a * b).a2 = a.a0 * b.a2 + a.a1 * b.a1 + a.a2 * b.a0 := by
  change (a.a0 + a.a2) * (b.a0 + b.a2) - a.a0 * b.a0 - a.a2 * b.a2 + a.a1 * b.a1 = _
  ring

/-- The laws of a commutative ring, coefficient by coefficient. -/
instance : CommRing Fq6 where
  add_assoc a b c := by ext1 <;> simp only [a0_add, a1_add, a2_add, add_assoc]
  zero_add a := by ext1 <;> simp
  add_zero a := by ext1 <;> simp
  add_comm a b := by ext1 <;> simp only [a0_add, a1_add, a2_add, add_comm]
  mul_assoc a b c := by ext1 <;> simp only [a0_mul, a1_mul, a2_mul] <;> ring
  one_mul a := by ext1 <;> simp
  mul_one a := by ext1 <;> simp
  mul_comm a b := by ext1 <;> simp only [a0_mul, a1_mul, a2_mul] <;> ring
  left_distrib a b c := by
    ext1 <;> simp only [a0_mul, a1_mul, a2_mul, a0_add, a1_add, a2_add] <;> ring
  right_distrib a b c := by
    ext1 <;> simp only [a0_mul, a1_mul, a2_mul, a0_add, a1_add, a2_add] <;> ring
  zero_mul a := by ext1 <;> simp
  mul_zero a := by ext1 <;> simp
  neg_add_cancel a := by ext1 <;> simp
  sub_eq_add_neg a b := by ext1 <;> simp [sub_eq_add_neg]
  nsmul := nsmulRec
  zsmul := zsmulRec

/-- The element `v`. -/
def v : Fq6 := ⟨0, 1, 0⟩

/-- The short way to multiply by the cube root is a product. -/
theorem mulByV_eq (a : Fq6) : a.mulByV = v * a := by
  ext1 <;> simp [mulByV, v]

end Fq6

namespace Fq12

/-- The first coefficient of one in the top field. -/
@[simp] theorem b0_one : (1 : Fq12).b0 = 1 := rfl

/-- The second coefficient of one in the top field. -/
@[simp] theorem b1_one : (1 : Fq12).b1 = 0 := rfl

/-- The first coefficient of a product in the top field. -/
@[simp] theorem b0_mul (a b : Fq12) : (a * b).b0 = a.b0 * b.b0 + Fq6.v * (a.b1 * b.b1) := by
  rw [← Fq6.mulByV_eq]
  rfl

/-- The second coefficient of a product in the top field. -/
@[simp] theorem b1_mul (a b : Fq12) : (a * b).b1 = a.b0 * b.b1 + a.b1 * b.b0 := by
  change (a.b0 + a.b1) * (b.b0 + b.b1) - a.b0 * b.b0 - a.b1 * b.b1 = _
  ring

/-- The laws of a product. -/
instance : CommMonoid Fq12 where
  mul_assoc a b c := by ext1 <;> simp only [b0_mul, b1_mul] <;> ring
  one_mul a := by ext1 <;> simp
  mul_one a := by ext1 <;> simp
  mul_comm a b := by ext1 <;> simp only [b0_mul, b1_mul] <;> ring
  npow := npowRec
  -- the equation of the recursion, since unfolding the product itself takes too long
  npow_succ _ _ := by simp only [HPow.hPow, Pow.pow, npowRec]

/-- The power by repeated squaring is the power of the monoid. -/
@[simp] theorem pow_eq (a : Fq12) (k : ℕ) : a.pow k = a ^ k := repeated_mul k a

end Fq12

end PolyCommit
