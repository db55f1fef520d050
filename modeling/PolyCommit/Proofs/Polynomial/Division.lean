import PolyCommit.Proofs.Polynomial.Convolution

/-!
# A polynomial from its quotient and remainder

The product of the quotient with `x - z`, with the remainder added to its constant coefficient, is
the polynomial, coefficient by coefficient: leading zeros come back as well. No other quotient of
that length and no other remainder do this, since the value at `z` gives the remainder and `x - z`
can be cancelled. Taking the remainder from the polynomial first leaves the quotient as it is and
nothing over.
-/

namespace PolyCommit

namespace Poly

/-- The factor `x - z`. -/
def linear (z : Fr) : Poly := [1, -z]

/-- The first row of a product with `x - z`, in front of the others. -/
theorem mul_cons_linear (e : Fr) {q : Poly} {m : Fr} {l : Poly} (h : mul q (linear z) = m :: l) :
    mul (e :: q) (linear z) = e :: (m - e * z) :: l := by
  have hfirst : e * 1 + 0 = e := by ring
  have hsecond : e * -z + m = m - e * z := by ring
  rw [mul, h, linear, List.map_cons, List.map_singleton, addAligned, hfirst, addAligned, hsecond]
  cases l <;> rfl

/-- The product with `x - z` undoes the recursion of the division. The carry stands for a
coefficient one place above the highest, which the product adds to its first place. -/
theorem mul_divideFrom (z carry c : Fr) {p : Poly} (hp : p ≠ []) :
    (mul (divideFrom z carry (c :: p)).1 (linear z)).modify p.length
        (· + (divideFrom z carry (c :: p)).2) = (c + carry * z) :: p := by
  induction p generalizing carry c with
  | nil => exact absurd rfl hp
  | cons d p ih =>
    cases p with
    | nil => simp [divideFrom, mul, linear, addAligned]
    | cons d' p =>
      have hrest := ih (c + carry * z) d (List.cons_ne_nil d' p)
      rw [divideFrom]
      obtain ⟨m, l, hproduct⟩ : ∃ m l, mul (divideFrom z (c + carry * z) (d :: d' :: p)).1
          (linear z) = m :: l := by
        apply List.exists_cons_of_ne_nil
        intro hnil
        rw [hnil, List.modify_nil] at hrest
        exact List.cons_ne_nil _ _ hrest.symm
      rw [hproduct, List.length_cons, List.modify_succ_cons] at hrest
      obtain ⟨rfl, hlast⟩ := List.cons_eq_cons.mp hrest
      rw [mul_cons_linear _ hproduct, List.length_cons, List.modify_succ_cons, List.length_cons,
        List.modify_succ_cons, hlast, add_sub_cancel_right]

/-- The quotient times `x - z` and the remainder in the last place make up the polynomial. -/
theorem mul_divide {p : Poly} (hp : 2 ≤ p.length) (z : Fr) :
    (mul (divide p z).1 (linear z)).modify (p.length - 1) (· + (divide p z).2) = p := by
  obtain ⟨c, p, rfl⟩ := List.exists_cons_of_length_pos (Nat.zero_lt_of_lt hp)
  have hne : p ≠ [] := List.ne_nil_of_length_pos (by simpa [Nat.succ_le_iff] using hp)
  have h := mul_divideFrom z 0 c hne
  rwa [zero_mul, add_zero] at h

/-- The shifted polynomial has the same quotient, and no remainder. -/
theorem divide_modify_last {p : Poly} (hp : p ≠ []) (z : Fr) :
    divide (p.modify (p.length - 1) (· - eval p z)) z = ((divide p z).1, 0) :=
  Prod.ext (quotientAt_eq_divide p z) (remainder_modify_last hp z)

/-! ### Uniqueness -/

/-- A linear factor has coefficients. -/
theorem linear_ne_nil (z : Fr) : linear z ≠ [] := List.cons_ne_nil 1 [-z]

/-- The value of a linear factor is a difference. -/
theorem eval_linear (z x : Fr) : eval (linear z) x = x - z := by
  simp [linear, eval_cons, sub_eq_add_neg]

/-- A product with a linear factor is one longer than the other factor. -/
theorem length_mul_linear {q : Poly} (hq : q ≠ []) (z : Fr) :
    (mul q (linear z)).length - 1 = q.length := by
  rw [length_mul hq (linear_ne_nil z)]
  rfl

/-- Adding to the constant coefficient adds to the value. -/
theorem eval_modify_last_add {p : Poly} (hp : p ≠ []) (r x : Fr) :
    eval (p.modify (p.length - 1) (· + r)) x = eval p x + r := by
  have hadd : (· + r) = (· - -r) := funext fun c => (sub_neg_eq_add c r).symm
  rw [hadd, eval_modify_last hp, sub_neg_eq_add]

/-- Changing one place in a reversible way loses nothing. -/
theorem modify_injective {f : Fr → Fr} (hf : Function.Injective f) (k : ℕ) :
    Function.Injective fun p : Poly => p.modify k f := by
  intro p q h
  apply List.ext_getElem?
  intro i
  have hi := congrArg (·[i]?) h
  simp only [List.getElem?_modify] at hi
  apply Option.map_injective _ hi
  split
  · exact hf
  · exact Function.injective_id

/-- A factor beside a linear one is told by the product. -/
theorem mul_linear_injective {q q' : Poly} (hlength : q.length = q'.length) (z : Fr)
    (h : mul q (linear z) = mul q' (linear z)) : q = q' := by
  have hne : reciprocal (linear z) ≠ 0 := fun h =>
    one_ne_zero (reciprocal_eq_zero_iff.mp h 1 List.mem_cons_self)
  apply reciprocal_injective hlength
  apply mul_right_cancel₀ hne
  rw [← reciprocal_mul, ← reciprocal_mul, h]

/-- A quotient and a remainder that make up the polynomial are those of the division. -/
theorem eq_divide {p q : Poly} (hp : 2 ≤ p.length) (hq : q.length = p.length - 1) {r z : Fr}
    (h : (mul q (linear z)).modify (p.length - 1) (· + r) = p) :
    q = (divide p z).1 ∧ r = (divide p z).2 := by
  have hne : q ≠ [] := List.ne_nil_of_length_pos (by omega)
  have hlength := (length_mul_linear hne z).trans hq
  have hr : r = (divide p z).2 := by
    rw [← hlength] at h
    rw [remainder_divide, ← h, eval_modify_last_add (mul_ne_nil hne (linear_ne_nil z)),
      eval_mul q (linear_ne_nil z), eval_linear, sub_self, mul_zero, zero_add]
  refine ⟨mul_linear_injective ?_ z ?_, hr⟩
  · rw [hq, divide, length_divideFrom]
  · subst hr
    exact modify_injective (add_left_injective _) (p.length - 1) (h.trans (mul_divide hp z).symm)

/-- Whether `q` times the factor, with `r` added to the last coefficient, is `p`. -/
def Reconstructs (factor : List Value) (p q : Poly) (r : Fr) : Prop :=
  ∃ m, product (.list (q.map .scalar)) (.list factor) = .ok m ∧
    m.modify (m.length - 1) (· + r) = p

/-- A quotient and a remainder reconstruct the dividend when the product with the linear factor and
the remainder make it up. -/
theorem reconstructs_iff {factor : List Value} {z : Fr} (hfactor : StandFor factor (linear z))
    {p q : Poly} (hp : 2 ≤ p.length) (hq : q.length = p.length - 1) {r : Fr} :
    Reconstructs factor p q r ↔ (mul q (linear z)).modify (p.length - 1) (· + r) = p := by
  have hne : q ≠ [] := List.ne_nil_of_length_pos (by omega)
  have hlength := (length_mul_linear hne z).trans hq
  rw [Reconstructs, product_list (standFor_scalar q) hfactor hne (linear_ne_nil z), ← hlength]
  constructor
  · rintro ⟨m, hm, h⟩
    rwa [Except.ok.inj hm]
  · exact fun h => ⟨_, rfl, h⟩

/-- Synthetic division is the division with remainder by `x - z`: its quotient and its remainder,
and no others, make up the polynomial, and the remainder is the value at `z`. -/
theorem quotient_euclidean {p : Poly} (hp : 2 ≤ p.length) {point : Value} {z : Fr}
    (hz : point.toFr = .ok z) {factor : List Value} (hfactor : StandFor factor [1, -z]) : ∃ q r,
    quotient (.list (p.map .scalar)) point = .ok (q, r) ∧
    q.length = p.length - 1 ∧ Reconstructs factor p q r ∧
    (∀ q' r', q'.length = p.length - 1 → Reconstructs factor p q' r' → q' = q ∧ r' = r) ∧
    evaluate (.list (p.map .scalar)) point (.int p.length) = .ok r ∧
    (r = 0 ↔ evaluate (.list (p.map .scalar)) point (.int p.length) = .ok 0) := by
  have hquotient := quotient_list (standFor_scalar p) hp hz
  have hvalue := evaluate_all (standFor_scalar p) hz
  rw [← remainder_divide] at hvalue
  have hlength : (divide p z).1.length = p.length - 1 := length_divideFrom z 0 p
  refine ⟨(divide p z).1, (divide p z).2, hquotient, hlength, ?_, ?_, hvalue, ?_⟩
  · exact (reconstructs_iff hfactor hp hlength).mpr (mul_divide hp z)
  · intro q' r' hq' h
    exact eq_divide hp hq' ((reconstructs_iff hfactor hp hq').mp h)
  · rw [hvalue, Except.ok.injEq]

/-- `x² - 3x + 2` has the root `1`. -/
theorem quotient_euclidean_root : ∃ q,
    quotient (.list ([1, -3, 2].map .scalar)) (.int 1) = .ok (q, 0) ∧
    Reconstructs [.int 1, .int (-1)] [1, -3, 2] q 0 ∧
    ∀ q' r', q'.length = 2 → Reconstructs [.int 1, .int (-1)] [1, -3, 2] q' r' →
      q' = q ∧ r' = 0 := by
  have hfactor : StandFor [.int 1, .int (-1)] [1, -1] := .cons rfl (.cons rfl .nil)
  have hz : (Value.int 1).toFr = .ok 1 := rfl
  obtain ⟨q, r, hquotient, -, hproduct, hunique, -, hroot⟩ :=
    quotient_euclidean (p := [1, -3, 2]) (by decide) hz hfactor
  obtain rfl : r = 0 := hroot.mpr rfl
  exact ⟨q, hquotient, hproduct, hunique⟩

end Poly

end PolyCommit
