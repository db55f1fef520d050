import PolyCommit.Field.Bn254
import PolyCommit.Proofs.Field.Primality
import Mathlib.NumberTheory.LegendreSymbol.Basic

/-!
# The quadratic extension is a field

The components of a product and of an inverse are those of `c0 + c1·i` with `i² = -1`. The norm
`c0² + c1²` vanishes only at zero, because `fieldModulus` leaves the remainder three modulo four and
minus one is no square modulo it.
-/

namespace PolyCommit

namespace Fq2

/-- The first part of zero. -/
@[simp] theorem c0_zero : (0 : Fq2).c0 = 0 := rfl

/-- The second part of zero. -/
@[simp] theorem c1_zero : (0 : Fq2).c1 = 0 := rfl

/-- The first part of one. -/
@[simp] theorem c0_one : (1 : Fq2).c0 = 1 := rfl

/-- The second part of one. -/
@[simp] theorem c1_one : (1 : Fq2).c1 = 0 := rfl

/-- The first part of a sum. -/
@[simp] theorem c0_add (a b : Fq2) : (a + b).c0 = a.c0 + b.c0 := rfl

/-- The second part of a sum. -/
@[simp] theorem c1_add (a b : Fq2) : (a + b).c1 = a.c1 + b.c1 := rfl

/-- The first part of a difference. -/
@[simp] theorem c0_sub (a b : Fq2) : (a - b).c0 = a.c0 - b.c0 := rfl

/-- The second part of a difference. -/
@[simp] theorem c1_sub (a b : Fq2) : (a - b).c1 = a.c1 - b.c1 := rfl

/-- The first part of an opposite. -/
@[simp] theorem c0_neg (a : Fq2) : (-a).c0 = -a.c0 := rfl

/-- The second part of an opposite. -/
@[simp] theorem c1_neg (a : Fq2) : (-a).c1 = -a.c1 := rfl

/-- The first part of a product. -/
@[simp] theorem c0_mul (a b : Fq2) : (a * b).c0 = a.c0 * b.c0 + -a.c1 * b.c1 :=
  Residue.sumOfProducts_eq a.c0 b.c0 (-a.c1) b.c1

/-- The second part of a product. -/
@[simp] theorem c1_mul (a b : Fq2) : (a * b).c1 = a.c0 * b.c1 + a.c1 * b.c0 :=
  Residue.sumOfProducts_eq a.c0 b.c1 a.c1 b.c0

/-- The first part of an inverse. -/
@[simp] theorem c0_inv (a : Fq2) : a.inv.c0 = (a.c0 * a.c0 + a.c1 * a.c1).inv * a.c0 := rfl

/-- The second part of an inverse. -/
@[simp] theorem c1_inv (a : Fq2) : a.inv.c1 = (a.c0 * a.c0 + a.c1 * a.c1).inv * -a.c1 := rfl

/-- The laws of a commutative ring, component by component. -/
instance : CommRing Fq2 where
  add_assoc a b c := by ext1 <;> simp [add_assoc]
  zero_add a := by ext1 <;> simp
  add_zero a := by ext1 <;> simp
  add_comm a b := by ext1 <;> simp [add_comm]
  mul_assoc a b c := by ext1 <;> simp only [c0_mul, c1_mul] <;> ring
  one_mul a := by ext1 <;> simp
  mul_one a := by ext1 <;> simp
  mul_comm a b := by ext1 <;> simp only [c0_mul, c1_mul] <;> ring
  left_distrib a b c := by ext1 <;> simp only [c0_mul, c1_mul, c0_add, c1_add] <;> ring
  right_distrib a b c := by ext1 <;> simp only [c0_mul, c1_mul, c0_add, c1_add] <;> ring
  zero_mul a := by ext1 <;> simp
  mul_zero a := by ext1 <;> simp
  neg_add_cancel a := by ext1 <;> simp
  sub_eq_add_neg a b := by ext1 <;> simp [sub_eq_add_neg]
  nsmul := nsmulRec
  zsmul := zsmulRec

/-- Only zero has norm zero. -/
theorem eq_zero_of_norm_eq_zero {a : Fq2} (h : a.c0 * a.c0 + a.c1 * a.c1 = 0) : a = 0 := by
  have hc1 : a.c1 = 0 := by
    by_contra hne
    have hcast : a.c1.toZMod ≠ 0 := fun hz =>
      hne (Residue.toZMod_injective (hz.trans Residue.toZMod_zero.symm))
    have hsq : a.c0.toZMod ^ 2 = -a.c1.toZMod ^ 2 := by
      have := congrArg Residue.toZMod h
      simp only [Residue.toZMod_add, Residue.toZMod_mul, Residue.toZMod_zero] at this
      linear_combination this
    exact ZMod.mod_four_ne_three_of_sq_eq_neg_sq' hcast hsq (by decide)
  have hc0 : a.c0 = 0 := by
    rw [hc1, mul_zero, add_zero] at h
    exact mul_self_eq_zero.mp h
  ext1
  · exact hc0
  · exact hc1

/-- Every element but zero has an inverse. -/
theorem mul_inv_eq_one {a : Fq2} (ha : a ≠ 0) : a * a.inv = 1 := by
  have hnorm := Residue.mul_inv_eq_one fun h => ha (eq_zero_of_norm_eq_zero h)
  ext1
  · rw [c0_mul, c0_inv, c1_inv, c0_one]
    linear_combination hnorm
  · rw [c1_mul, c0_inv, c1_inv, c1_one]
    ring

/-- Zero is its own inverse. -/
theorem inv_zero : (0 : Fq2).inv = 0 := by
  ext1
  · rw [c0_inv, c0_zero, mul_zero]
  · rw [c1_inv, c1_zero, neg_zero, mul_zero]

/-- The quadratic extension is a field; the quotient is the library's own. -/
instance : Field Fq2 where
  inv := inv
  exists_pair_ne := ⟨0, 1, fun h => zero_ne_one (congrArg c0 h)⟩
  mul_inv_cancel _ := mul_inv_eq_one
  inv_zero := inv_zero
  nnqsmul := _
  nnqsmul_def _ _ := rfl
  qsmul := _
  qsmul_def _ _ := rfl

/-- The power by repeated squaring is the power of the field. -/
@[simp] theorem pow_eq (a : Fq2) (k : ℕ) : a.pow k = a ^ k := repeated_mul k a

/-- An element is its two components. -/
def componentsEquiv : Fq2 ≃ Fq × Fq where
  toFun a := (a.c0, a.c1)
  invFun c := ⟨c.1, c.2⟩

/-- The number of elements. -/
theorem card_eq : Nat.card Fq2 = fieldModulus * fieldModulus := by
  rw [Nat.card_congr componentsEquiv, Nat.card_prod, Residue.card_eq]

instance : Finite Fq2 := Finite.of_equiv _ componentsEquiv.symm

end Fq2

end PolyCommit
