import PolyCommit.Proofs.Polynomial.Evaluation

/-!
# Sums, multiples and products of polynomials

The value of a sum whose coefficients are aligned at the highest, and of a product. On polynomials
with equally many coefficients the value and the quotient of a division are linear. The quotient
never reads the constant coefficient, so that the shift which makes a division exact does not
disturb this.
-/

namespace PolyCommit

namespace Poly

/-! ### Values -/

/-- Aligning at the highest coefficient multiplies the shorter polynomial by a power of `z`. -/
theorem eval_addAligned (p q : Poly) (z : Fr) :
    eval (addAligned p q) z =
      eval p z * z ^ (q.length - p.length) + eval q z * z ^ (p.length - q.length) := by
  induction p generalizing q with
  | nil => simp [addAligned]
  | cons a p ih =>
    cases q with
    | nil => simp [addAligned]
    | cons b q =>
      have hp : p.length + (q.length - p.length) = max p.length q.length := by omega
      have hq : q.length + (p.length - q.length) = max p.length q.length := by omega
      have hpz := congrArg (z ^ ·) hp
      have hqz := congrArg (z ^ ·) hq
      simp only [pow_add] at hpz hqz
      rw [addAligned, eval_cons, eval_cons, eval_cons, ih, length_addAligned, List.length_cons,
        List.length_cons, Nat.add_sub_add_right, Nat.add_sub_add_right]
      linear_combination -a * hpz - b * hqz

/-- Equally many coefficients are added one by one. -/
theorem addAligned_eq_zipWith {p q : Poly} (h : p.length = q.length) :
    addAligned p q = List.zipWith (· + ·) p q := by
  induction p generalizing q with
  | nil => rw [List.eq_nil_of_length_eq_zero h.symm]; rfl
  | cons a p ih =>
    cases q with
    | nil => cases h
    | cons b q => rw [addAligned, ih (Nat.succ.inj h), List.zipWith_cons_cons]

/-- The value of a sum is the sum of the values. -/
theorem eval_zipWith_add {p q : Poly} (h : p.length = q.length) (z : Fr) :
    eval (List.zipWith (· + ·) p q) z = eval p z + eval q z := by
  rw [← addAligned_eq_zipWith h, eval_addAligned, h, Nat.sub_self, pow_zero, mul_one, mul_one]

/-- The value of a multiple is the multiple of the value. -/
theorem eval_map_mul (s : Fr) (p : Poly) (z : Fr) : eval (p.map (s * ·)) z = s * eval p z := by
  induction p with
  | nil => simp
  | cons c p ih =>
    rw [List.map_cons, eval_cons, eval_cons, ih, List.length_map]
    ring

/-- A product has coefficients if both factors do. -/
theorem mul_ne_nil {p q : Poly} (hp : p ≠ []) (hq : q ≠ []) : mul p q ≠ [] := by
  have := List.length_pos_iff.mpr hp
  have := List.length_pos_iff.mpr hq
  exact List.ne_nil_of_length_pos (by rw [length_mul hp hq]; omega)

/-- The value of a product is the product of the values. -/
theorem eval_mul (p : Poly) {q : Poly} (hq : q ≠ []) (z : Fr) :
    eval (mul p q) z = eval p z * eval q z := by
  have hpos := List.length_pos_iff.mpr hq
  induction p with
  | nil => simp [mul]
  | cons a p ih =>
    have hrow : eval (0 :: mul p q) z = eval p z * eval q z := by
      rw [eval_cons, zero_mul, zero_add, ih]
    -- The first row is as many places above the others as there are rows below it.
    have hlength : (mul p q).length + 1 - q.length = p.length := by
      rcases eq_or_ne p [] with rfl | hp
      · rw [mul, List.length_nil]; omega
      · rw [length_mul hp hq]; omega
    have hshift : eval p z * z ^ (q.length - ((mul p q).length + 1)) = eval p z := by
      rcases eq_or_ne p [] with rfl | hp
      · rw [eval_nil, zero_mul]
      · have := List.length_pos_iff.mpr hp
        rw [length_mul hp hq, show q.length - (p.length + q.length - 1 + 1) = 0 by omega, pow_zero,
          mul_one]
    rw [mul, eval_addAligned, eval_map_mul, hrow, eval_cons, List.length_cons, List.length_map,
      hlength]
    linear_combination eval q z * hshift

/-! ### Division -/

/-- The division recursion is additive, carries included. -/
theorem divideFrom_zipWith_add {p q : Poly} (h : p.length = q.length) (z carry carry' : Fr) :
    divideFrom z (carry + carry') (List.zipWith (· + ·) p q) =
      (List.zipWith (· + ·) (divideFrom z carry p).1 (divideFrom z carry' q).1,
        (divideFrom z carry p).2 + (divideFrom z carry' q).2) := by
  induction p generalizing q carry carry' with
  | nil => rw [List.eq_nil_of_length_eq_zero h.symm]; rfl
  | cons c p ih =>
    obtain ⟨d, q, rfl⟩ := List.exists_cons_of_length_eq_add_one h.symm
    have htail : p.length = q.length := Nat.succ.inj h
    have hcarry : c + d + (carry + carry') * z = c + carry * z + (d + carry' * z) := by ring
    cases p with
    | nil =>
      rw [List.eq_nil_of_length_eq_zero htail.symm]
      exact Prod.ext rfl hcarry
    | cons c' p =>
      obtain ⟨d', q, rfl⟩ := List.exists_cons_of_length_eq_add_one htail.symm
      have hrest := ih htail (c + carry * z) (d + carry' * z)
      rw [List.zipWith_cons_cons] at hrest
      simp only [List.zipWith_cons_cons, divideFrom, hcarry, hrest]

/-- Dividing a multiple with a multiple of the carry gives multiples. -/
theorem divideFrom_map_mul (s : Fr) (p : Poly) (z carry : Fr) :
    divideFrom z (s * carry) (p.map (s * ·)) =
      ((divideFrom z carry p).1.map (s * ·), s * (divideFrom z carry p).2) := by
  induction p generalizing carry with
  | nil => rfl
  | cons c p ih =>
    have hcarry : s * c + s * carry * z = s * (c + carry * z) := by ring
    cases p with
    | nil => exact Prod.ext rfl hcarry
    | cons d p =>
      have hrest := ih (c + carry * z)
      rw [List.map_cons] at hrest
      simp only [List.map_cons, divideFrom, hcarry, hrest]

/-- The quotient does not depend on the constant coefficient. -/
theorem divideFrom_modify_last (f : Fr → Fr) (p : Poly) (z carry : Fr) :
    (divideFrom z carry (p.modify (p.length - 1) f)).1 = (divideFrom z carry p).1 := by
  induction p generalizing carry with
  | nil => rfl
  | cons c p ih =>
    cases p with
    | nil => rfl
    | cons d p =>
      have hrest := ih (c + carry * z)
      have hmodify : (c :: d :: p).modify ((c :: d :: p).length - 1) f =
          c :: (d :: p).modify ((d :: p).length - 1) f := rfl
      obtain ⟨e, r, hr⟩ := List.exists_cons_of_length_eq_add_one
        ((List.length_modify f (d :: p) ((d :: p).length - 1)).trans List.length_cons)
      rw [hmodify, hr, divideFrom, divideFrom, ← hr, hrest]

/-- The quotient is the first part of a division. -/
theorem quotientAt_eq_divide (p : Poly) (z : Fr) : quotientAt p z = (divide p z).1 :=
  divideFrom_modify_last _ p z 0

/-- The quotient of a sum is the sum of the quotients. -/
theorem quotientAt_zipWith_add {p q : Poly} (h : p.length = q.length) (z : Fr) :
    quotientAt (List.zipWith (· + ·) p q) z =
      List.zipWith (· + ·) (quotientAt p z) (quotientAt q z) := by
  have hdivide := divideFrom_zipWith_add h z 0 0
  rw [add_zero] at hdivide
  simp only [quotientAt_eq_divide, divide, hdivide]

/-- The quotient of a multiple is the multiple of the quotient. -/
theorem quotientAt_map_mul (s : Fr) (p : Poly) (z : Fr) :
    quotientAt (p.map (s * ·)) z = (quotientAt p z).map (s * ·) := by
  have hdivide := divideFrom_map_mul s p z 0
  rw [mul_zero] at hdivide
  simp only [quotientAt_eq_divide, divide, hdivide]

end Poly

end PolyCommit
