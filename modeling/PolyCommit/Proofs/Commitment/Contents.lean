import PolyCommit.Proofs.Commitment.Opening
import PolyCommit.Proofs.Polynomial.Division

/-!
# What a witness contains

The quotient of a witness is itself a commitment, to the quotient of the unshifted polynomial at one
degree less, and its value is the commitment to a constant. Neither needs the points of the key to
obey any law, or even to lie on the curve: the two computations take the same multiples of the same
points in the same order.
-/

namespace PolyCommit

namespace PairingSystem

variable {T : Type} {E : PairingSystem T} {key : Key}

/-- The commitment to a constant is its multiple of the first point. -/
theorem commit_constant (hnone : ∀ P, E.g₁.add none P = P) (y : Fr) :
    E.commit key (.list [.scalar y]) (.int 1) =
      .ok (E.g₁.scale y (key.points₁.headD none)) := by
  have hsize : 1 ≤ key.size₁ := List.length_pos_iff.mpr key.powers₁_ne_nil
  have hp : Poly.StandFor ([.scalar y].take 1) [y] := Poly.standFor_scalar [y]
  rw [show (1 : ℤ) = (1 : ℕ) from rfl, commit_eq_sum le_rfl hsize le_rfl hp]
  exact Window.sum_singleton hnone key.points₁_ne_nil y

/-- Opening a polynomial commits to its quotient, one place further down the coefficients. -/
theorem exists_openAt (hnone : ∀ P, E.g₁.add none P = P) {n : ℕ} (hn : 2 ≤ n)
    (hsize : n ≤ key.size₁) {xs : List Value} (hxs : n ≤ xs.length) {p : Poly}
    (hp : Poly.StandFor (xs.take n) p) {point : Value} {z : Fr} (hz : point.toFr = .ok z) :
    ∃ w, E.openAt key (.list xs) point (.int n) = .ok w ∧ w.point = z ∧
      E.commit key (.list ((p.divide z).1.map .scalar)) (.int (n - 1 : ℕ)) = .ok w.quotient ∧
      E.commit key (.list [.scalar (p.eval z)]) (.int 1) = .ok w.value := by
  have hlength : p.length = n := hp.length_eq_of_take hxs
  have hquotient : (p.quotientAt z).length = n - 1 := by rw [p.length_quotientAt, hlength]
  have hmap : ((p.quotientAt z).map Value.scalar).length = n - 1 := by
    rw [List.length_map, hquotient]
  obtain ⟨C, hC, hshifted⟩ :=
    exists_sum_quotientAt (E := E) (show 1 ≤ n by omega) hsize hlength z
  have htake := (Poly.standFor_scalar (p.quotientAt z)).take_of_length_le hmap.le
  refine ⟨_, by rw [openAt_eq_sum hn hsize hxs hp hz, hshifted]; rfl, rfl, ?_,
    commit_constant hnone _⟩
  rw [← Poly.quotientAt_eq_divide, commit_eq_sum (by omega) (by omega) hmap.ge htake, hC]

/-- What the witness `w` for the first `n` coefficients, the polynomial `p`, at the point `z` has to
do with the value `y` and the quotient `psi` of `p` there. -/
structure HasContents (E : PairingSystem T) (key : Key) (xs : List Value) (n : ℕ) (point : Value)
    (z : Fr) (w : Witness) (p psi : Poly) (y : Fr) : Prop where
  coefficients : Poly.StandFor (xs.take n) p
  openAt : E.openAt key (.list xs) point (.int n) = .ok w
  evaluate : Poly.evaluate (.list xs) point (.int n) = .ok y
  quotient : Poly.quotient (.list (p.map .scalar)) point = .ok (psi, y)
  point_eq : w.point = z
  commit_quotient : E.commit key (.list (psi.map .scalar)) (.int (n - 1 : ℕ)) = .ok w.quotient
  commit_value : E.commit key (.list [.scalar y]) (.int 1) = .ok w.value
  /-- The quotient times `x - z`, and the value in the last place, are the coefficients again. -/
  product : ∀ factor, Poly.StandFor factor [1, -z] → ∃ q,
    Poly.product (.list (psi.map .scalar)) (.list factor) = .ok q ∧ q.modify (n - 1) (· + y) = p
  /-- Taking the value away first leaves the same quotient and no remainder. -/
  quotient_shifted :
    Poly.quotient (.list ((p.modify (n - 1) (· - y)).map .scalar)) point = .ok (psi, 0)

/-- For any key, on the curve or not, the witness at a point holds the point, the commitment to the
quotient at one degree less, and the commitment to the value as a constant. -/
theorem openAt_contents (key : Key) {xs : List Value} (hxs : ∀ v ∈ xs, v.number?.isSome)
    {point : Value} {z : Fr} (hz : point.toFr = .ok z) {n : ℕ} (hn : 2 ≤ n)
    (hlength : n ≤ xs.length) (hsize : n ≤ key.size₁) :
    ∃ w p psi y, bn254.HasContents key xs n point z w p psi y := by
  obtain ⟨p, hp⟩ := Poly.exists_standFor fun v hv => hxs v (List.mem_of_mem_take hv : v ∈ xs)
  have hcount : p.length = n := by rw [← hp.length_eq, List.length_take, Nat.min_eq_left hlength]
  have hne : p ≠ [] := List.ne_nil_of_length_pos (by omega)
  have hdivide : p.divide z = ((p.divide z).1, p.eval z) :=
    Prod.ext rfl (Poly.remainder_divide p z)
  have hpsi : (p.divide z).1 ≠ [] := by
    apply List.ne_nil_of_length_pos
    rw [Poly.divide, Poly.length_divideFrom]
    omega
  obtain ⟨w, hopen, hpoint, hquotient, hvalue⟩ :=
    exists_openAt (E := bn254) Point.none_add hn hsize hlength hp hz
  refine ⟨w, p, (p.divide z).1, p.eval z, {
    coefficients := hp
    openAt := hopen
    evaluate := Poly.evaluate_list_of_toFr hlength hp hz
    quotient := by rw [← hdivide, Poly.quotient_list (Poly.standFor_scalar p) (by omega) hz]
    point_eq := hpoint
    commit_quotient := hquotient
    commit_value := hvalue
    product := ?_
    quotient_shifted := ?_ }⟩
  · intro factor hfactor
    refine ⟨_, Poly.product_list (Poly.standFor_scalar _) hfactor hpsi (List.cons_ne_nil _ _), ?_⟩
    have h := Poly.mul_divide (hcount.symm ▸ hn) z
    rwa [hcount, Poly.remainder_divide] at h
  · have h := Poly.divide_modify_last hne z
    rw [hcount] at h
    rw [Poly.quotient_list (Poly.standFor_scalar _) (by rw [List.length_modify]; omega) hz, h]

/-- None of the key's points is on the curve, the middle coefficient is skipped, and one coefficient
stays unread. -/
theorem openAt_contents_offCurve : ∃ key : Key,
    (∀ P ∈ key.points₁, Bn254.onCurve₁ P = false) ∧ ∃ w p psi y,
      bn254.HasContents key [.int 2, .scalar 0, .int (-5), .int 7] 3 (.int 4) 4 w p psi y := by
  obtain ⟨key, hpoints, hsize⟩ : ∃ key : Key,
      (∀ P ∈ key.points₁, Bn254.onCurve₁ P = false) ∧ key.size₁ = 3 :=
    ⟨⟨[⟨0, 0⟩, ⟨1, 1⟩, ⟨5, 7⟩], [Bn254.base₂], by simp, by simp⟩, by decide, rfl⟩
  exact ⟨key, hpoints, openAt_contents key (by decide) rfl (by decide) (by decide)
    (by rw [hsize])⟩

end PairingSystem

end PolyCommit
