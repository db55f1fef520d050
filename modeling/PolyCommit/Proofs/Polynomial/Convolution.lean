import PolyCommit.Proofs.Polynomial.Input
import PolyCommit.Proofs.Polynomial.Linearity
import Mathlib.Algebra.Polynomial.Coeff
import Mathlib.Data.List.GetD

/-!
# Products of polynomials

The coefficient of a product at a place is the sum of the products of those coefficients whose
places add up to it. Places count from the highest coefficient, so lists are read here as
polynomials the other way round, with the highest coefficient as the constant one: adding aligned
lists is then adding, and the rows of a product add up to the product. The laws of multiplication
are those of polynomials over a field, brought back by comparing lists of one length.
-/

namespace PolyCommit

namespace Poly

open Polynomial

/-! ### Lists as polynomials -/

/-- The reciprocal polynomial: the highest coefficient is the constant one. -/
noncomputable def reciprocal : Poly → Fr[X]
  | [] => 0
  | c :: p => C c + X * reciprocal p

/-- A coefficient of the reciprocal is an entry of the list. -/
theorem coeff_reciprocal (p : Poly) (k : ℕ) : (reciprocal p).coeff k = p.getD k 0 := by
  induction p generalizing k with
  | nil => exact coeff_zero k
  | cons c p ih =>
    cases k with
    | zero => rw [reciprocal, coeff_add, coeff_C_zero, coeff_X_mul_zero, add_zero,
        List.getD_cons_zero]
    | succ k => rw [reciprocal, coeff_add, coeff_C_succ, coeff_X_mul, zero_add, ih,
        List.getD_cons_succ]

/-- Lists of one length have different reciprocals. -/
theorem reciprocal_injective {p q : Poly} (hlength : p.length = q.length)
    (h : reciprocal p = reciprocal q) : p = q := by
  apply List.ext_getElem hlength
  intro k hp hq
  have hcoeff := congrArg (coeff · k) h
  simp only [coeff_reciprocal] at hcoeff
  rwa [List.getD_eq_getElem p 0 hp, List.getD_eq_getElem q 0 hq] at hcoeff

/-- The reciprocal is zero exactly when all coefficients are. -/
theorem reciprocal_eq_zero_iff {p : Poly} : reciprocal p = 0 ↔ ∀ c ∈ p, c = 0 := by
  induction p with
  | nil => exact iff_of_true rfl nofun
  | cons c p ih =>
    rw [List.forall_mem_cons, ← ih, reciprocal]
    constructor
    · intro h
      have hfirst := congrArg (coeff · 0) h
      simp only [coeff_add, coeff_C_zero, coeff_X_mul_zero, add_zero, coeff_zero] at hfirst
      rw [hfirst, C_0, zero_add] at h
      exact ⟨hfirst, (mul_eq_zero.mp h).resolve_left X_ne_zero⟩
    · rintro ⟨rfl, h⟩
      rw [h, C_0, mul_zero, add_zero]

/-- The reciprocal of a sum is the sum of the reciprocals. -/
theorem reciprocal_addAligned (p q : Poly) :
    reciprocal (addAligned p q) = reciprocal p + reciprocal q := by
  induction p generalizing q with
  | nil => rw [addAligned, reciprocal, zero_add]
  | cons a p ih =>
    cases q with
    | nil => rw [addAligned, reciprocal, reciprocal, add_zero]; exact List.cons_ne_nil a p
    | cons b q =>
      rw [addAligned, reciprocal, reciprocal, reciprocal, ih, C_add]
      ring

/-- The reciprocal of a sum of lists of one length is the sum of the reciprocals. -/
theorem reciprocal_zipWith_add {p q : Poly} (hlength : p.length = q.length) :
    reciprocal (List.zipWith (· + ·) p q) = reciprocal p + reciprocal q := by
  rw [← addAligned_eq_zipWith hlength, reciprocal_addAligned]

/-- The reciprocal of a multiple is the multiple of the reciprocal. -/
theorem reciprocal_map_mul (s : Fr) (p : Poly) :
    reciprocal (p.map (s * ·)) = C s * reciprocal p := by
  induction p with
  | nil => rw [List.map_nil, reciprocal, mul_zero]
  | cons c p ih =>
    rw [List.map_cons, reciprocal, reciprocal, ih, C_mul]
    ring

/-- The rows of a product add up to the product. -/
theorem reciprocal_mul (p q : Poly) : reciprocal (mul p q) = reciprocal p * reciprocal q := by
  induction p with
  | nil => rw [mul, reciprocal, zero_mul]
  | cons a p ih =>
    rw [mul, reciprocal_addAligned, reciprocal_map_mul, reciprocal, ih, C_0, reciprocal]
    ring

/-! ### Laws of the product -/

variable {a b c : Poly}

/-- The coefficients of a product are those of the convolution. -/
theorem getD_mul (a b : Poly) (k : ℕ) :
    (mul a b).getD k 0 =
      ∑ ij ∈ Finset.HasAntidiagonal.antidiagonal k, a.getD ij.1 0 * b.getD ij.2 0 := by
  simp only [← coeff_reciprocal, reciprocal_mul, coeff_mul]

/-- Factors can be exchanged. -/
theorem mul_swap (ha : a ≠ []) (hb : b ≠ []) : mul a b = mul b a := by
  apply reciprocal_injective
  · rw [length_mul ha hb, length_mul hb ha, add_comm]
  · rw [reciprocal_mul, reciprocal_mul, mul_comm]

/-- Three factors can be multiplied in either order. -/
theorem mul_mul (ha : a ≠ []) (hb : b ≠ []) (hc : c ≠ []) :
    mul (mul a b) c = mul a (mul b c) := by
  have := List.length_pos_iff.mpr ha
  have := List.length_pos_iff.mpr hb
  have := List.length_pos_iff.mpr hc
  apply reciprocal_injective
  · rw [length_mul (mul_ne_nil ha hb) hc, length_mul ha hb, length_mul ha (mul_ne_nil hb hc),
      length_mul hb hc]
    omega
  · simp only [reciprocal_mul, mul_assoc]

/-- A sum of lists of one length is empty only if they are. -/
theorem zipWith_add_ne_nil (hb : b ≠ []) (hlength : b.length = c.length) :
    List.zipWith (· + ·) b c ≠ [] := by
  have hc : c ≠ [] := List.ne_nil_of_length_pos (hlength ▸ List.length_pos_iff.mpr hb)
  rw [ne_eq, List.zipWith_eq_nil_iff]
  exact not_or.mpr ⟨hb, hc⟩

/-- A product with a sum is the sum of the products. -/
theorem mul_zipWith_add (ha : a ≠ []) (hb : b ≠ []) (hlength : b.length = c.length) :
    mul a (List.zipWith (· + ·) b c) = List.zipWith (· + ·) (mul a b) (mul a c) := by
  have hc : c ≠ [] := List.ne_nil_of_length_pos (hlength ▸ List.length_pos_iff.mpr hb)
  have hproducts : (mul a b).length = (mul a c).length := by
    rw [length_mul ha hb, length_mul ha hc, hlength]
  apply reciprocal_injective
  · rw [length_mul ha (zipWith_add_ne_nil hb hlength), List.length_zipWith, List.length_zipWith,
      ← hproducts, length_mul ha hb, ← hlength, min_self, min_self]
  · rw [reciprocal_mul, reciprocal_zipWith_add hlength, reciprocal_zipWith_add hproducts,
      reciprocal_mul, reciprocal_mul, mul_add]

/-- One is a unit. -/
theorem mul_unit (ha : a ≠ []) : mul a [1] = a := by
  apply reciprocal_injective
  · rw [length_mul ha (List.cons_ne_nil 1 []), List.length_singleton, Nat.add_sub_cancel]
  · rw [reciprocal_mul]
    simp [reciprocal]

/-- A product vanishes only if a factor does: the coefficients are from a field. -/
theorem forall_mem_mul_eq_zero_iff (a b : Poly) :
    (∀ x ∈ mul a b, x = 0) ↔ (∀ x ∈ a, x = 0) ∨ ∀ x ∈ b, x = 0 := by
  simp only [← reciprocal_eq_zero_iff, reciprocal_mul, mul_eq_zero]

/-- What the product `ab` of two lists of scalars is, as a list and as a polynomial. -/
structure IsProduct (a b ab : Poly) : Prop where
  product : product (.list (a.map .scalar)) (.list (b.map .scalar)) = .ok ab
  length : ab.length = a.length + b.length - 1
  coefficient : ∀ k, ab.getD k 0 =
    ∑ ij ∈ Finset.HasAntidiagonal.antidiagonal k, a.getD ij.1 0 * b.getD ij.2 0
  value : ∀ point z, point.toFr = .ok z → ∃ x y,
    evaluate (.list (a.map .scalar)) point (.int a.length) = .ok x ∧
    evaluate (.list (b.map .scalar)) point (.int b.length) = .ok y ∧
    evaluate (.list (ab.map .scalar)) point (.int (a.length + b.length - 1 : ℕ)) = .ok (x * y)
  zero_iff : (∀ x ∈ ab, x = 0) ↔ (∀ x ∈ a, x = 0) ∨ ∀ x ∈ b, x = 0

/-- The product has the length, the coefficients and the values of one. -/
theorem isProduct_mul (ha : a ≠ []) (hb : b ≠ []) : IsProduct a b (mul a b) where
  product := product_list (standFor_scalar a) (standFor_scalar b) ha hb
  length := length_mul ha hb
  coefficient := getD_mul a b
  value point z hz := by
    refine ⟨_, _, evaluate_all (standFor_scalar a) hz, evaluate_all (standFor_scalar b) hz, ?_⟩
    rw [← length_mul ha hb, evaluate_all (standFor_scalar _) hz, eval_mul a hb]
  zero_iff := forall_mem_mul_eq_zero_iff a b

/-- Multiplication is that of polynomials: it is commutative and associative, distributes over sums
of equally many coefficients, and has the constant one as its unit. -/
theorem product_laws (ha : a ≠ []) (hb : b ≠ []) (hc : c ≠ []) :
    IsProduct a b (mul a b) ∧ IsProduct b a (mul a b) ∧
    IsProduct b c (mul b c) ∧ IsProduct a (mul b c) (mul a (mul b c)) ∧
    IsProduct (mul a b) c (mul a (mul b c)) ∧
    IsProduct a [1] a ∧ IsProduct [1] a a ∧
    (b.length = c.length → IsProduct a c (mul a c) ∧
      IsProduct a (List.zipWith (· + ·) b c) (List.zipWith (· + ·) (mul a b) (mul a c)) ∧
      IsProduct (List.zipWith (· + ·) b c) a (List.zipWith (· + ·) (mul a b) (mul a c))) := by
  have hone : ([1] : Poly) ≠ [] := List.cons_ne_nil 1 []
  have hswapped {p q : Poly} (hp : p ≠ []) (hq : q ≠ []) : IsProduct q p (mul p q) :=
    mul_swap hp hq ▸ isProduct_mul hq hp
  refine ⟨isProduct_mul ha hb, hswapped ha hb, isProduct_mul hb hc,
    isProduct_mul ha (mul_ne_nil hb hc), ?_, ?_, ?_, fun hlength => ⟨isProduct_mul ha hc, ?_, ?_⟩⟩
  · rw [← mul_mul ha hb hc]
    exact isProduct_mul (mul_ne_nil ha hb) hc
  · have h := isProduct_mul ha hone
    rwa [mul_unit ha] at h
  · have h := hswapped ha hone
    rwa [mul_unit ha] at h
  · rw [← mul_zipWith_add ha hb hlength]
    exact isProduct_mul ha (zipWith_add_ne_nil hb hlength)
  · rw [← mul_zipWith_add ha hb hlength]
    exact hswapped ha (zipWith_add_ne_nil hb hlength)

/-- `(x + 1)(x - 1) = x² - 1`, times `2` with a leading zero, and `(x + 1)(x - 1) + (x + 1)·2`. -/
theorem product_laws_leadingZero :
    IsProduct [1, 1] [1, -1] [1, 0, -1] ∧ IsProduct [1, 0, -1] [0, 2] [0, 2, 0, -2] ∧
    IsProduct [1, 1] (List.zipWith (· + ·) [1, -1] [0, 2]) [1, 2, 1] := by
  have hab : mul [1, 1] [1, -1] = [1, 0, -1] := by decide
  have habc : mul [1, 1] (mul [1, -1] [0, 2]) = [0, 2, 0, -2] := by decide
  have hsum : List.zipWith (· + ·) (mul [1, 1] [1, -1]) (mul [1, 1] [0, 2]) = [1, 2, 1] := by
    decide
  obtain ⟨hproduct, -, -, -, hassoc, -, -, hdistributes⟩ :=
    product_laws (a := [1, 1]) (b := [1, -1]) (c := [0, 2]) (by simp) (by simp) (by simp)
  have hright := (hdistributes rfl).2.1
  rw [hsum] at hright
  rw [habc] at hassoc
  rw [hab] at hproduct hassoc
  exact ⟨hproduct, hassoc, hright⟩

end Poly

end PolyCommit
