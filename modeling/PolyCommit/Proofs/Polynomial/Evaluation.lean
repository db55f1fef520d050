import PolyCommit.Polynomial.Basic
import PolyCommit.Proofs.Field.Primality
import Mathlib.Tactic.LinearCombination
import Mathlib.Tactic.Ring

/-!
# Evaluation and synthetic division

The value of a polynomial, one coefficient at a time from either end, and the identity `p(x) = (x -
z)·q(x) + r` of the division by `x - z`. The identity at `x = z` makes the remainder the value
there, so a polynomial minus its value at `z` divides without remainder.
-/

namespace PolyCommit

namespace Poly

/-- Terms with a running power contribute the value of the reversed list, shifted by that power. -/
theorem foldl_terms (l : List Fr) (z sum power : Fr) :
    (l.foldl (fun (sum, power) c => (sum + c * power, power * z)) (sum, power)).1 =
      sum + power * eval l.reverse z := by
  rw [eval, List.reverse_reverse]
  induction l generalizing sum power with
  | nil => simp
  | cons c l ih =>
    rw [List.foldl_cons, List.foldl_cons, ih, ih (0 + c * 1)]
    ring

/-- The value without coefficients is zero. -/
@[simp] theorem eval_nil (z : Fr) : eval [] z = 0 := rfl

/-- A coefficient at the end is the new constant one. -/
theorem eval_concat (p : Poly) (c z : Fr) : eval (p ++ [c]) z = eval p z * z + c := by
  rw [eval, List.reverse_append, List.reverse_singleton, List.singleton_append, List.foldl_cons,
    foldl_terms, List.reverse_reverse]
  ring

/-- A coefficient in front is the new highest one. -/
theorem eval_cons (c : Fr) (p : Poly) (z : Fr) :
    eval (c :: p) z = c * z ^ p.length + eval p z := by
  induction p using List.reverseRecOn with
  | nil => simp [eval]
  | append_singleton p d ih =>
    rw [← List.cons_append, eval_concat, ih, eval_concat, List.length_append, List.length_singleton]
    ring

/-- The coefficients in front are above the others by their number. -/
theorem eval_append (p q : Poly) (z : Fr) :
    eval (p ++ q) z = eval p z * z ^ q.length + eval q z := by
  induction p with
  | nil => simp
  | cons c p ih =>
    rw [List.cons_append, eval_cons, eval_cons, ih, List.length_append, pow_add]
    ring

/-- The identity of the division with a carry: the carry stands for a coefficient one place above
the highest. -/
theorem eval_divideFrom (z carry c : Fr) (p : Poly) (x : Fr) :
    eval (c :: p) x + carry * z * x ^ p.length =
      (x - z) * eval (divideFrom z carry (c :: p)).1 x + (divideFrom z carry (c :: p)).2 := by
  induction p generalizing carry c with
  | nil => simp [divideFrom, eval_cons]
  | cons d p ih =>
    have hlength : (divideFrom z (c + carry * z) (d :: p)).1.length = p.length :=
      length_divideFrom z (c + carry * z) (d :: p)
    rw [divideFrom, eval_cons c, eval_cons (c + carry * z), hlength, List.length_cons, pow_succ]
    linear_combination ih (c + carry * z) d

/-- The identity of the division by `x - z`. -/
theorem eval_divide (p : Poly) (z x : Fr) :
    eval p x = (x - z) * eval (divide p z).1 x + (divide p z).2 := by
  cases p with
  | nil => simp [divide, divideFrom]
  | cons c p =>
    have h := eval_divideFrom z 0 c p x
    rwa [zero_mul, zero_mul, add_zero] at h

/-- The remainder is the value. -/
theorem remainder_divide (p : Poly) (z : Fr) : (divide p z).2 = eval p z := by
  rw [eval_divide p z z, sub_self, zero_mul, zero_add]

/-- Subtracting from the constant coefficient subtracts from the value. -/
theorem eval_modify_last {p : Poly} (hp : p ≠ []) (y x : Fr) :
    eval (p.modify (p.length - 1) (· - y)) x = eval p x - y := by
  obtain ⟨q, c, rfl⟩ := (List.eq_nil_or_concat p).resolve_left hp
  have hlast : (q ++ [c]).modify ((q ++ [c]).length - 1) (· - y) = q ++ [c - y] := by
    rw [List.modify_eq_take_cons_drop (by simp)]
    simp
  rw [List.concat_eq_append, hlast, eval_concat, eval_concat]
  ring

/-- A polynomial minus its value at `z` divides by `x - z` without remainder. -/
theorem remainder_modify_last {p : Poly} (hp : p ≠ []) (z : Fr) :
    (divide (p.modify (p.length - 1) (· - eval p z)) z).2 = 0 := by
  rw [remainder_divide, eval_modify_last hp, sub_self]

/-- The quotient of a polynomial minus its value at `z` by `x - z`. -/
def quotientAt (p : Poly) (z : Fr) : Poly :=
  (divide (p.modify (p.length - 1) (· - eval p z)) z).1

/-- The quotient is one shorter than the dividend. -/
theorem length_quotientAt (p : Poly) (z : Fr) : (quotientAt p z).length = p.length - 1 := by
  rw [quotientAt, divide, length_divideFrom, List.length_modify]

/-- The quotient times `x - z` is the difference of the values at `x` and at `z`. -/
theorem eval_quotientAt {p : Poly} (hp : p ≠ []) (z x : Fr) :
    (x - z) * eval (quotientAt p z) x = eval p x - eval p z := by
  have h := eval_divide (p.modify (p.length - 1) (· - eval p z)) z x
  rwa [remainder_modify_last hp, eval_modify_last hp, add_zero, eq_comm] at h

end Poly

end PolyCommit
