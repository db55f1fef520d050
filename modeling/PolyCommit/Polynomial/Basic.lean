import PolyCommit.Field.Bn254

/-!
# Polynomials

A polynomial is the list of its coefficients, the highest first: `[3, 1, 4]` is `3x² + x + 4`. Its
length, and not its degree, decides how it is read, so leading zeros are kept.
-/

namespace PolyCommit

/-- Coefficients of a polynomial, the highest first. -/
abbrev Poly := List Fr

namespace Poly

/-- The value at `z`: the terms are added from the constant one up, with a running power. -/
def eval (p : Poly) (z : Fr) : Fr :=
  (p.reverse.foldl (fun (sum, power) c => (sum + c * power, power * z)) ((0, 1) : Fr × Fr)).1

/-- Coefficients added place by place from the highest; the rest of the longer list is kept. -/
def addAligned : Poly → Poly → Poly
  | [], q => q
  | p, [] => p
  | a :: p, b :: q => (a + b) :: addAligned p q

/-- The product, with one coefficient less than both have together; both must have some. -/
def mul : Poly → Poly → Poly
  | [], _ => []
  | a :: p, q => addAligned (q.map (a * ·)) (0 :: mul p q)

/-- Synthetic division by `x - z` with a carry from the places above: the quotient's coefficients
and the remainder. -/
def divideFrom (z carry : Fr) : Poly → Poly × Fr
  | [] => ([], carry)
  | [c] => ([], c + carry * z)
  | c :: d :: p =>
    let carry := c + carry * z
    let rest := divideFrom z carry (d :: p)
    (carry :: rest.1, rest.2)

/-- The quotient and the remainder of the division by `x - z`. -/
def divide (p : Poly) (z : Fr) : Poly × Fr := divideFrom z 0 p

/-- The quotient has one coefficient less. -/
theorem length_divideFrom (z carry : Fr) (p : Poly) :
    (divideFrom z carry p).1.length = p.length - 1 := by
  induction p generalizing carry with
  | nil => rfl
  | cons c p ih =>
    cases p with
    | nil => rfl
    | cons d p => simp [divideFrom, ih]

/-- Adding aligned lists gives the longer length. -/
theorem length_addAligned (p q : Poly) : (addAligned p q).length = max p.length q.length := by
  induction p generalizing q with
  | nil => simp [addAligned]
  | cons a p ih =>
    cases q with
    | nil => simp [addAligned]
    | cons b q => simp [addAligned, ih]

/-- The number of coefficients of a product. -/
theorem length_mul {p q : Poly} (hp : p ≠ []) (hq : q ≠ []) :
    (mul p q).length = p.length + q.length - 1 := by
  have hq' : 0 < q.length := List.length_pos_iff.mpr hq
  induction p with
  | nil => exact absurd rfl hp
  | cons a p ih =>
    rw [mul, length_addAligned, List.length_map, List.length_cons, List.length_cons]
    cases p with
    | nil => simp [mul]; omega
    | cons b p =>
      rw [ih (by simp), List.length_cons]
      omega

end Poly

end PolyCommit
