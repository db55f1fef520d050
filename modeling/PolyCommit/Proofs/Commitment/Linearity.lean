import PolyCommit.Proofs.Commitment.Opening
import PolyCommit.Proofs.Pairing.Bilinear
import PolyCommit.Proofs.Polynomial.Linearity

/-!
# Commitments and openings are linear

Under any key whose points are on the curve, powers of one scalar or not, the commitment to a sum of
polynomials is the sum of the commitments, and the same goes for the two points of a witness and for
multiples. Which terms a sum over a window skips depends on the coefficients, but as a combination
of members it is linear in them.
-/

namespace PolyCommit

namespace PointGroup

variable {F : Type} {G : PointGroup F} [G.Lawful]

/-- The combination of sums is the sum of the combinations. -/
theorem combination_zipWith_add {k l : List Fr} (h : k.length = l.length) (Ps : List G.Member) :
    combination (List.zipWith (· + ·) k l) Ps = combination k Ps + combination l Ps := by
  induction k generalizing l Ps with
  | nil => rw [List.eq_nil_of_length_eq_zero h.symm]; exact (add_zero 0).symm
  | cons c k ih =>
    obtain ⟨d, l, rfl⟩ := List.exists_cons_of_length_eq_add_one h.symm
    cases Ps with
    | nil => exact (add_zero 0).symm
    | cons P Ps =>
      rw [List.zipWith_cons_cons, combination_cons, combination_cons, combination_cons,
        ih (Nat.succ.inj h), add_smul]
      exact add_add_add_comm _ _ _ _

/-- The combination of multiples is the multiple of the combination. -/
theorem combination_map_mul (s : Fr) (l : List Fr) (Ps : List G.Member) :
    combination (l.map (s * ·)) Ps = s • combination l Ps := by
  induction l generalizing Ps with
  | nil => exact (smul_zero s).symm
  | cons c l ih =>
    cases Ps with
    | nil => exact (smul_zero s).symm
    | cons P Ps => rw [List.map_cons, combination_cons, combination_cons, ih, mul_smul, smul_add]

/-- The coefficients of two polynomials of one length, from the constant one up. -/
theorem combination_reverse_zipWith_add {p q : Poly} (h : p.length = q.length)
    (Ps : List G.Member) : combination (List.zipWith (· + ·) p q).reverse Ps =
      combination p.reverse Ps + combination q.reverse Ps := by
  rw [List.reverse_zipWith h]
  exact combination_zipWith_add (by rw [List.length_reverse, List.length_reverse, h]) Ps

/-- The same for coefficients in the order of a polynomial. -/
theorem combination_reverse_map_mul (s : Fr) (p : Poly) (Ps : List G.Member) :
    combination (p.map (s * ·)).reverse Ps = s • combination p.reverse Ps := by
  rw [← List.map_reverse, combination_map_mul]

end PointGroup

namespace PairingSystem

open PointGroup

section Members

variable {T : Type} {E : PairingSystem T} [E.g₁.Lawful] {key : Key} {Ps : List E.g₁.Member} {n : ℕ}
  {xs ys sums multiples : List Value} {p q : Poly} {s : Number}

/-- Values past the degree do not matter. -/
theorem commit_take (hkey : key.points₁ = Ps.map Member.point) (hn : 1 ≤ n) (hsize : n ≤ key.size₁)
    (hxs : Poly.StandFor xs p) (hlength : n ≤ p.length) :
    E.commit key (.list xs) (.int n) = .ok (combination (p.take n).reverse Ps).point :=
  commit_members hkey hn hsize (hlength.trans_eq hxs.length_eq.symm) (List.forall₂_take n hxs)

/-- The witness for the first coefficients of a polynomial, as members. -/
theorem openAt_take (hkey : key.points₁ = Ps.map Member.point) (hn : 2 ≤ n) (hsize : n ≤ key.size₁)
    (hxs : Poly.StandFor xs p) (hlength : n ≤ p.length) {point : Value} {z : Fr}
    (hz : point.toFr = .ok z) :
    E.openAt key (.list xs) point (.int n) =
      .ok ⟨z, (Poly.eval (p.take n) z • Ps.headD 0).point,
        (combination (Poly.quotientAt (p.take n) z).reverse Ps).point⟩ :=
  openAt_members hkey hn hsize (hlength.trans_eq hxs.length_eq.symm) (List.forall₂_take n hxs) hz

variable (hkey : key.points₁ = Ps.map Member.point) (hlength : p.length = q.length)
  (hxs : Poly.StandFor xs p) (hys : Poly.StandFor ys q)
  (hsums : Poly.StandFor sums (List.zipWith (· + ·) p q))
  (hmultiples : Poly.StandFor multiples (p.map (s.toFr * ·))) (hn : n ≤ p.length)
  (hsize : n ≤ key.size₁)
include hkey hlength hxs hys hsums hmultiples hn hsize

/-- Commitments to sums and multiples are sums and multiples of commitments. -/
theorem commit_linear (hone : 1 ≤ n) : ∃ C D,
    E.commit key (.list xs) (.int n) = .ok C ∧ E.commit key (.list ys) (.int n) = .ok D ∧
    E.commit key (.list sums) (.int n) = .ok (E.g₁.add C D) ∧
    E.commit key (.list multiples) (.int n) = .ok (E.g₁.mul s.toInt C) := by
  have hcommit {vs : List Value} {r : Poly} (hvs : Poly.StandFor vs r) (hr : n ≤ r.length) :=
    commit_take hkey hone hsize hvs hr
  have htake : (p.take n).length = (q.take n).length := by
    rw [List.length_take, List.length_take, hlength]
  refine ⟨_, _, hcommit hxs hn, hcommit hys (hlength ▸ hn), ?_, ?_⟩
  · rw [hcommit hsums (by rwa [List.length_zipWith, ← hlength, min_self]), List.take_zipWith,
      combination_reverse_zipWith_add htake, Member.point_add]
  · rw [hcommit hmultiples (by rwa [List.length_map]), ← List.map_take,
      combination_reverse_map_mul, mul_toInt]

/-- Witnesses for sums and multiples have sums and multiples as their points. -/
theorem openAt_linear (htwo : 2 ≤ n) {point : Value} {z : Fr} (hz : point.toFr = .ok z) : ∃ w v,
    E.openAt key (.list xs) point (.int n) = .ok w ∧
    E.openAt key (.list ys) point (.int n) = .ok v ∧
    E.openAt key (.list sums) point (.int n) =
      .ok ⟨z, E.g₁.add w.value v.value, E.g₁.add w.quotient v.quotient⟩ ∧
    E.openAt key (.list multiples) point (.int n) =
      .ok ⟨z, E.g₁.mul s.toInt w.value, E.g₁.mul s.toInt w.quotient⟩ := by
  have hopen {vs : List Value} {r : Poly} (hvs : Poly.StandFor vs r) (hr : n ≤ r.length) :=
    openAt_take hkey htwo hsize hvs hr hz
  have htake : (p.take n).length = (q.take n).length := by
    rw [List.length_take, List.length_take, hlength]
  have hquotient :
      (Poly.quotientAt (p.take n) z).length = (Poly.quotientAt (q.take n) z).length := by
    rw [Poly.length_quotientAt, Poly.length_quotientAt, htake]
  refine ⟨_, _, hopen hxs hn, hopen hys (hlength ▸ hn), ?_, ?_⟩
  · rw [hopen hsums (by rwa [List.length_zipWith, ← hlength, min_self]), List.take_zipWith,
      Poly.eval_zipWith_add htake, Poly.quotientAt_zipWith_add htake, add_smul,
      combination_reverse_zipWith_add hquotient, Member.point_add, Member.point_add]
  · rw [hopen hmultiples (by rwa [List.length_map]), ← List.map_take, Poly.eval_map_mul,
      Poly.quotientAt_map_mul, mul_smul, combination_reverse_map_mul, mul_toInt, mul_toInt]

end Members

open Bn254 in
/-- Under a key of points on the curve, the commitments to a sum and to a multiple, and the
witnesses for them at any point, are the sums and the multiples of those for the summands. -/
theorem commit_openAt_linear {key : Key} (hkey : ∀ P ∈ key.points₁, onCurve₁ P = true) {p q : Poly}
    (hlength : p.length = q.length) (s : Number) {xs ys sums multiples : List Value}
    (hxs : Poly.StandFor xs p) (hys : Poly.StandFor ys q)
    (hsums : Poly.StandFor sums (List.zipWith (· + ·) p q))
    (hmultiples : Poly.StandFor multiples (p.map (s.toFr * ·))) {n : ℕ} (hn : n ≤ p.length)
    (hsize : n ≤ key.size₁) :
    (1 ≤ n → ∃ C D,
      bn254.commit key (.list xs) (.int n) = .ok C ∧
      bn254.commit key (.list ys) (.int n) = .ok D ∧
      bn254.commit key (.list sums) (.int n) = .ok (group₁.add C D) ∧
      bn254.commit key (.list multiples) (.int n) = .ok (group₁.mul s.toInt C)) ∧
    (2 ≤ n → ∀ point z, point.toFr = .ok z → ∃ w v,
      bn254.openAt key (.list xs) point (.int n) = .ok w ∧
      bn254.openAt key (.list ys) point (.int n) = .ok v ∧
      bn254.openAt key (.list sums) point (.int n) =
        .ok ⟨z, group₁.add w.value v.value, group₁.add w.quotient v.quotient⟩ ∧
      bn254.openAt key (.list multiples) point (.int n) =
        .ok ⟨z, group₁.mul s.toInt w.value, group₁.mul s.toInt w.quotient⟩) := by
  obtain ⟨Ps, hPs⟩ := Member.exists_map_point_eq (G := bn254.g₁) hkey
  exact ⟨commit_linear hPs hlength hxs hys hsums hmultiples hn hsize, fun htwo point z hz =>
    openAt_linear hPs hlength hxs hys hsums hmultiples hn hsize htwo hz⟩

/-- The points of the key are no powers of one scalar, and the highest coefficients of `x + 2` and
of `-x + 3` cancel: their sum is read with a leading zero. -/
theorem commit_openAt_linear_cancelling : ∃ key : Key,
    key.points₁ = [bn254.g₁.base, bn254.g₁.neg bn254.g₁.base, bn254.g₁.neg bn254.g₁.base] ∧
    (∃ C D, bn254.commit key (.list [.int 1, .int 2]) (.int 2) = .ok C ∧
      bn254.commit key (.list [.int (-1), .int 3]) (.int 2) = .ok D ∧
      bn254.commit key (.list [.int 0, .int 5]) (.int 2) = .ok (bn254.g₁.add C D) ∧
      bn254.commit key (.list [.int 7, .int 14]) (.int 2) = .ok (bn254.g₁.mul 7 C)) ∧
    ∃ w v, bn254.openAt key (.list [.int 1, .int 2]) (.int 4) (.int 2) = .ok w ∧
      bn254.openAt key (.list [.int (-1), .int 3]) (.int 4) (.int 2) = .ok v ∧
      bn254.openAt key (.list [.int 0, .int 5]) (.int 4) (.int 2) =
        .ok ⟨4, bn254.g₁.add w.value v.value, bn254.g₁.add w.quotient v.quotient⟩ ∧
      bn254.openAt key (.list [.int 7, .int 14]) (.int 4) (.int 2) =
        .ok ⟨4, bn254.g₁.mul 7 w.value, bn254.g₁.mul 7 w.quotient⟩ := by
  obtain ⟨key, hpoints, hsize⟩ : ∃ key : Key, key.points₁ =
      [bn254.g₁.base, bn254.g₁.neg bn254.g₁.base, bn254.g₁.neg bn254.g₁.base] ∧ key.size₁ = 3 :=
    ⟨⟨[Bn254.base₁, Bn254.base₁.neg, Bn254.base₁.neg], [Bn254.base₂], by simp, by simp⟩, rfl, rfl⟩
  have hkey : ∀ P ∈ key.points₁, Bn254.onCurve₁ P = true := by
    rw [hpoints]
    decide
  have hlength : ([1, 2] : Poly).length = ([-1, 3] : Poly).length := rfl
  have hxs : Poly.StandFor [.int 1, .int 2] [1, 2] := .cons rfl (.cons rfl .nil)
  have hys : Poly.StandFor [.int (-1), .int 3] [-1, 3] := .cons rfl (.cons rfl .nil)
  have hsums : Poly.StandFor [.int 0, .int 5] (List.zipWith (· + ·) [1, 2] [-1, 3]) :=
    .cons rfl (.cons rfl .nil)
  have hmultiples : Poly.StandFor [.int 7, .int 14] ([1, 2].map ((Number.int 7).toFr * ·)) :=
    .cons rfl (.cons rfl .nil)
  obtain ⟨hcommit, hopen⟩ :=
    commit_openAt_linear hkey hlength (.int 7) hxs hys hsums hmultiples le_rfl (by simp [hsize])
  exact ⟨key, hpoints, hcommit (by decide), hopen (by decide) (.int 4) 4 rfl⟩

end PairingSystem

end PolyCommit
