import PolyCommit.Commitment
import PolyCommit.Proofs.Commitment.Window
import PolyCommit.Proofs.Key.Setup

/-!
# Commitments and openings as combinations of members

Under a key that lists members, the commitment to `p` is the combination of its coefficients with
them, and the witness at `z` consists of a multiple of the first member by `p(z)` and of the
combination for the quotient of `p - p(z)` by `x - z`. Both computations succeed for every degree in
range. If the members are the multiples of `P` by the powers of a scalar `a`, the combinations are
`p(a)·P` and `q(a)·P` for the quotient `q`.
-/

namespace PolyCommit

namespace PairingSystem

open PointGroup

variable {T : Type} {E : PairingSystem T} {key : Key}

/-- A degree within the size passes. -/
theorem checkSize_of_le {size n : ℕ} (h : n ≤ size) (poly : Value) :
    checkSize size poly n = .ok () :=
  if_neg (Nat.not_lt.mpr h)

/-- A degree above the size that counts coefficients of a list is refused. -/
theorem checkSize_of_le_length {size n : ℕ} (h : size < n) {xs : List Value} (hxs : n ≤ xs.length) :
    checkSize size (.list xs) n = .error (.refused (.beyondKey n size)) := by
  rw [checkSize, if_pos h]
  exact if_pos (decide_eq_true hxs)

/-- A degree above the size and the length of a list is refused, if it can be quoted. -/
theorem checkSize_of_length_lt {size n : ℕ} (h : size < n) {xs : List Value} (hxs : xs.length < n) :
    checkSize size (.list xs) n = .error (.quoting (.beyondKey n size)) := by
  have hany : ¬(Value.list xs).length?.any (n ≤ ·) = true := fun hle =>
    Nat.not_le.mpr hxs (of_decide_eq_true hle)
  rw [checkSize, if_pos h, if_neg hany]

/-- A degree from the least one up to the size of the key passes. -/
theorem keyDegree_int {least n : ℕ} (hleast : least ≤ n) (hsize : n ≤ key.size₁) (poly : Value) :
    keyDegree key least poly (.int n) = .ok n := by
  rw [keyDegree, Poly.degree_int hleast, ok_bind, checkSize_of_le hsize]
  rfl

/-- All coefficients of a list are refused if they are more than the key has powers. -/
theorem commit_beyondKey {xs : List Value} (hn : 1 ≤ xs.length) (hsize : key.size₁ < xs.length) :
    E.commit key (.list xs) (.int xs.length) =
      .error (.refused (.beyondKey xs.length key.size₁)) := by
  rw [commit, keyDegree, Poly.degree_int hn, ok_bind, checkSize_of_le_length hsize le_rfl]
  rfl

/-- A constant cannot be opened. -/
theorem openAt_one {poly point : Value} :
    E.openAt key poly point (.int (1 : ℕ)) = .error (.refused (.degree (.below 2 1))) := by
  have hwritable : (Refusal.degree (.below 2 1)).isWritable = true := by decide +kernel
  rw [openAt, keyDegree, Poly.degree_below (by decide), error_bind, error_bind,
    ← Failure.quoting_eq hwritable]
  rfl

variable {n : ℕ} {xs : List Value} {p : Poly}

/-! ### Any points -/

/-- After its checks a commitment is the sum of a window. -/
theorem commit_eq_sum (hn : 1 ≤ n) (hsize : n ≤ key.size₁) (hxs : n ≤ xs.length)
    (hp : Poly.StandFor (xs.take n) p) :
    E.commit key (.list xs) (.int n) = Window.sum E.g₁ key.points₁ (p.map .scalar) 0 n := by
  rw [commit, keyDegree_int hn hsize, ok_bind, Poly.firstCoefficients_list hxs hp, ok_bind]

/-- What an opening does after the checks. -/
def openPolynomial (E : PairingSystem T) (key : Key) (n : ℕ) (p : Poly) (z : Fr) :
    Except Failure Witness := do
  let y := p.eval z
  let (quotient, remainder) := Poly.divide (p.modify (n - 1) (· - y)) z
  if remainder ≠ 0 then .error (.refused .remainder)
  let commitment ← Window.sum E.g₁ key.points₁ (quotient.map .scalar) 1 n
  return ⟨z, E.g₁.scale y (key.points₁.headD none), commitment⟩

/-- After its checks an opening works on the coefficients alone. -/
theorem openAt_eq_openPolynomial (hn : 2 ≤ n) (hsize : n ≤ key.size₁) (hxs : n ≤ xs.length)
    (hp : Poly.StandFor (xs.take n) p) (point : Value) :
    E.openAt key (.list xs) point (.int n) = point.toFr >>= E.openPolynomial key n p := by
  rw [openAt, keyDegree_int hn hsize, ok_bind, Poly.firstCoefficients_list hxs hp, ok_bind]
  rfl

/-- The witness holds the value with the first point and a sum for the quotient. The check on the
remainder passes. -/
theorem openPolynomial_eq (hn : 1 ≤ n) (hlength : p.length = n) (z : Fr) :
    E.openPolynomial key n p z =
      (Window.sum E.g₁ key.points₁ ((p.quotientAt z).map .scalar) 1 n).map
        (⟨z, E.g₁.scale (p.eval z) (key.points₁.headD none), ·⟩) := by
  have hne : p ≠ [] := List.ne_nil_of_length_pos (by omega)
  have hdivide : Poly.divide (p.modify (n - 1) (· - p.eval z)) z = (p.quotientAt z, 0) := by
    rw [← hlength]
    exact Prod.ext rfl (Poly.remainder_modify_last hne z)
  simp only [openPolynomial, hdivide, ne_eq, not_true_eq_false, if_false]
  rfl

/-- After its checks an opening at a point makes a witness of the sum of a window. -/
theorem openAt_eq_sum (hn : 2 ≤ n) (hsize : n ≤ key.size₁) (hxs : n ≤ xs.length)
    (hp : Poly.StandFor (xs.take n) p) {point : Value} {z : Fr} (hz : point.toFr = .ok z) :
    E.openAt key (.list xs) point (.int n) =
      (Window.sum E.g₁ key.points₁ ((p.quotientAt z).map .scalar) 1 n).map
        (⟨z, E.g₁.scale (p.eval z) (key.points₁.headD none), ·⟩) := by
  have hlength : p.length = n := hp.length_eq_of_take hxs
  rw [openAt_eq_openPolynomial hn hsize hxs hp, hz, ok_bind, openPolynomial_eq (by omega) hlength]

/-- The sum for the quotient exists, and is the same one place further down the coefficients. -/
theorem exists_sum_quotientAt (hn : 1 ≤ n) (hsize : n ≤ key.size₁) (hlength : p.length = n)
    (z : Fr) : ∃ C,
    Window.sum E.g₁ key.points₁ ((p.quotientAt z).map .scalar) 0 (n - 1 : ℕ) = .ok C ∧
    Window.sum E.g₁ key.points₁ ((p.quotientAt z).map .scalar) 1 n = .ok C := by
  have hquotient : (p.quotientAt z).length = n - 1 := by rw [p.length_quotientAt, hlength]
  obtain ⟨C, hC⟩ := Window.exists_sum (G := E.g₁) hquotient.ge
    (show n - 1 ≤ key.points₁.length by rw [Key.length_points₁]; omega)
  refine ⟨C, hC, ?_⟩
  rw [Window.sum_offset, ← hC, Nat.cast_sub hn, Nat.cast_one]

variable [E.g₁.Lawful]

/-! ### Any members -/

section Members

variable {Ps : List E.g₁.Member} (hkey : key.points₁ = Ps.map Member.point)
include hkey

omit [E.g₁.Lawful] in
/-- There are as many members as powers. -/
theorem length_members : Ps.length = key.size₁ := by
  rw [← Key.length_points₁, hkey, List.length_map]

/-- The commitment is a combination of the members. -/
theorem commit_members (hn : 1 ≤ n) (hsize : n ≤ key.size₁) (hxs : n ≤ xs.length)
    (hp : Poly.StandFor (xs.take n) p) :
    E.commit key (.list xs) (.int n) = .ok (combination p.reverse Ps).point := by
  have hlength : p.length = n := hp.length_eq_of_take hxs
  have hbound : p.length ≤ Ps.length := by rwa [hlength, length_members hkey]
  have hsum := Window.sum_eq hbound (Poly.standFor_scalar p) 0
  rw [← hkey, Nat.zero_add, hlength] at hsum
  rw [commit_eq_sum hn hsize hxs hp]
  exact hsum

/-- The witness holds the value at the point with the first member and a combination for the
quotient. -/
theorem openAt_members (hn : 2 ≤ n) (hsize : n ≤ key.size₁) (hxs : n ≤ xs.length)
    (hp : Poly.StandFor (xs.take n) p) {point : Value} {z : Fr} (hz : point.toFr = .ok z) :
    E.openAt key (.list xs) point (.int n) =
      .ok ⟨z, (p.eval z • Ps.headD 0).point, (combination (p.quotientAt z).reverse Ps).point⟩ := by
  have hlength : p.length = n := hp.length_eq_of_take hxs
  have hquotient := p.length_quotientAt z
  have hbound : (p.quotientAt z).length ≤ Ps.length := by rw [length_members hkey]; omega
  have hsum := Window.sum_eq hbound (Poly.standFor_scalar (p.quotientAt z)) 1
  rw [← hkey, hquotient, hlength, show 1 + (n - 1) = n by omega] at hsum
  have hhead : key.points₁.headD none = (Ps.headD 0).point := by
    rw [hkey]
    cases Ps <;> rfl
  rw [openAt_eq_sum hn hsize hxs hp hz, hhead, Member.point_smul]
  exact congrArg (Except.map _) hsum

end Members

/-! ### A ladder -/

variable [E.g₂.Lawful] {P : E.g₁.Member} {Q : E.g₂.Member} {a : Fr} {size : ℕ}

/-- The commitment is the value at the hidden scalar. -/
theorem commit_ladder (hkey : Key.IsLadder E key P Q a size) (hn : 1 ≤ n) (hsize : n ≤ size)
    (hxs : n ≤ xs.length) (hp : Poly.StandFor (xs.take n) p) :
    E.commit key (.list xs) (.int n) = .ok (p.eval a • P).point := by
  have hlength : p.length = n := hp.length_eq_of_take hxs
  rw [commit_members hkey.points₁ hn (hsize.trans_eq hkey.size₁_eq.symm) hxs hp,
    combination_iterate a _ P (by rw [List.length_reverse]; omega), List.reverse_reverse]

/-- The witness holds the value at the point and the quotient's value at the hidden scalar. -/
theorem openAt_ladder (hkey : Key.IsLadder E key P Q a size) (hn : 2 ≤ n) (hsize : n ≤ size)
    (hxs : n ≤ xs.length) (hp : Poly.StandFor (xs.take n) p) (z : Fr) :
    E.openAt key (.list xs) (.scalar z) (.int n) =
      .ok ⟨z, (p.eval z • P).point, ((p.quotientAt z).eval a • P).point⟩ := by
  have hlength : p.length = n := hp.length_eq_of_take hxs
  have hquotient := p.length_quotientAt z
  have hhead : (List.iterate (a • ·) P size).headD 0 = P := by
    obtain ⟨m, rfl⟩ : ∃ m, size = m + 1 := ⟨size - 1, by omega⟩
    rfl
  have hz : (Value.scalar z).toFr = .ok z := rfl
  rw [openAt_members hkey.points₁ hn (hsize.trans_eq hkey.size₁_eq.symm) hxs hp hz, hhead,
    combination_iterate a _ P (by rw [List.length_reverse]; omega), List.reverse_reverse]

end PairingSystem

end PolyCommit
