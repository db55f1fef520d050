import PolyCommit.Window
import PolyCommit.Proofs.Curve.PointGroup
import PolyCommit.Proofs.Polynomial.Evaluation
import PolyCommit.Proofs.Polynomial.Input
import Mathlib.Algebra.BigOperators.Group.List.Basic
import Mathlib.Data.List.Iterate

/-!
# Sums over a window are linear combinations

A sum over a window pairs the coefficients, from the constant one up, with the points from the first
on. Its terms with a zero coefficient are skipped, which a linear combination of members cannot
tell. Against the members `P, a·P, a²·P, …` the combination is the polynomial's value at `a`, as a
multiple of `P`.
-/

namespace PolyCommit

namespace PointGroup

variable {F : Type} {G : PointGroup F} [G.Lawful]

/-- Coefficients against members, the first with the first, as far as both lists go. -/
def combination (l : List Fr) (Ps : List G.Member) : G.Member := (List.zipWith (· • ·) l Ps).sum

/-- Without coefficients a combination is the identity. -/
@[simp] theorem combination_nil (Ps : List G.Member) : combination [] Ps = 0 := rfl

/-- The first coefficient goes with the first member. -/
@[simp] theorem combination_cons (c : Fr) (l : List Fr) (P : G.Member) (Ps : List G.Member) :
    combination (c :: l) (P :: Ps) = c • P + combination l Ps := List.sum_cons

/-- A combination of the multiples of a member by the powers of `a` is a value at `a`. -/
theorem combination_iterate (a : Fr) (l : List Fr) (P : G.Member) {n : ℕ} (hn : l.length ≤ n) :
    combination l (List.iterate (a • ·) P n) = Poly.eval l.reverse a • P := by
  induction l generalizing P n with
  | nil => simp
  | cons c l ih =>
    obtain ⟨m, rfl⟩ : ∃ m, n = m + 1 := Nat.exists_eq_succ_of_ne_zero (by simp at hn; omega)
    rw [List.iterate, combination_cons, ih (a • P) (Nat.le_of_succ_le_succ hn), List.reverse_cons,
      Poly.eval_concat, ← mul_smul, ← add_smul, add_comm]

end PointGroup

namespace Window

open PointGroup

variable {F : Type} {G : PointGroup F} {points : List (Point F)} {coeffs : List Value}

/-! ### Any points -/

/-- The points are read from the first on, and the coefficients from the last that is read back. -/
theorem places_eq_map (offset degree : ℤ) : places offset degree =
    (List.range (degree - offset).toNat).map fun k : ℕ => (degree - offset - 1 - k, (k : ℤ)) := by
  unfold places
  apply List.map_congr_left
  intro k _
  apply Prod.ext <;> ring

/-- An offset shortens the window and changes nothing else. -/
theorem places_offset (offset degree : ℤ) : places offset degree = places 0 (degree - offset) := by
  rw [places_eq_map, places_eq_map, sub_zero]

/-- A window with an offset adds what the window without it does at a lower degree. -/
theorem sum_offset (offset degree : ℤ) :
    sum G points coeffs offset degree = sum G points coeffs 0 (degree - offset) := by
  rw [sum, places_offset, sum]

/-- The places of a window without an offset, as a range. -/
theorem places_eq (n : ℕ) :
    places 0 n = (List.range n).map fun k : ℕ => ((n - 1 - k : ℤ), (k : ℤ)) := by
  rw [places_eq_map, sub_zero, Int.toNat_natCast]

/-- A sum exists if the window keeps within the coefficients and the points. -/
theorem exists_sum {p : Poly} {n : ℕ} (hp : n ≤ p.length) (hpoints : n ≤ points.length) :
    ∃ S, sum G points (p.map .scalar) 0 n = .ok S := by
  rw [sum, places_eq]
  apply exists_foldlM_eq_ok
  intro S place hplace
  obtain ⟨k, hk, rfl⟩ := List.mem_map.mp hplace
  rw [List.mem_range] at hk
  obtain ⟨c, hc⟩ : ∃ c, p[(n - 1 - k : ℤ).toNat]? = some c :=
    ⟨_, List.getElem?_eq_getElem (by omega)⟩
  obtain ⟨P, hP⟩ : ∃ P, points[(k : ℤ).toNat]? = some P :=
    ⟨_, List.getElem?_eq_getElem (by omega)⟩
  simp only [term, List.getElem?_map, hc, hP, Option.map_some, Value.number, Value.number?, ok_bind]
  split
  · exact ⟨S, rfl⟩
  · exact ⟨_, rfl⟩

/-- A wider window has all places one coefficient further down, and one more. -/
theorem places_succ (n : ℕ) :
    places 0 (n + 1 : ℕ) =
      (places 0 n).map (fun place => (place.1 + 1, place.2)) ++ [(0, (n : ℤ))] := by
  have hlast : ((n + 1 : ℕ) - 1 - n : ℤ) = 0 := by omega
  rw [places_eq, places_eq, List.range_succ, List.map_append, List.map_singleton, hlast,
    List.map_map]
  congr 1
  apply List.map_congr_left
  intro k _
  apply Prod.ext
  · change ((n + 1 : ℕ) - 1 - k : ℤ) = n - 1 - k + 1
    omega
  · rfl

/-- Without an offset no place of a coefficient is negative. -/
theorem fst_nonneg_of_mem_places {n : ℕ} {place : ℤ × ℤ} (h : place ∈ places 0 n) :
    0 ≤ place.1 := by
  rw [places_eq] at h
  obtain ⟨k, hk, rfl⟩ := List.mem_map.mp h
  rw [List.mem_range] at hk
  change 0 ≤ (n - 1 - k : ℤ)
  omega

/-- A coefficient in front meets the next point. -/
theorem sum_cons (v : Value) (coeffs : List Value) (n : ℕ) :
    sum G points (v :: coeffs) 0 (n + 1 : ℕ) =
      sum G points coeffs 0 n >>= fun S => term G points (v :: coeffs) S (0, n) := by
  rw [sum, places_succ, List.foldlM_append, List.foldlM_map]
  congr 1
  · apply foldlM_congr
    intro S place hplace
    have hcoeff : (place.1 + 1).toNat = place.1.toNat + 1 :=
      Int.toNat_add (fst_nonneg_of_mem_places hplace) zero_le_one
    simp only [term, hcoeff, List.getElem?_cons_succ]
  · funext S
    rw [List.foldlM_cons]
    simp only [List.foldlM_nil, bind_pure]

/-- Zeros in front are skipped. -/
theorem sum_replicate_append (k n : ℕ) :
    sum G points (List.replicate k (.scalar 0) ++ coeffs) 0 (k + n : ℕ) =
      sum G points coeffs 0 n := by
  induction k with
  | zero => rw [List.replicate_zero, List.nil_append, Nat.zero_add]
  | succ k ih =>
    rw [List.replicate_succ, List.cons_append, Nat.add_right_comm, sum_cons, ih]
    exact bind_pure _

/-- A term adds the multiple of its point to a point that the identity leaves as it is, also where
the term is skipped. -/
theorem term_eq_add {place : ℤ × ℤ} {v : Value} {n : Number} {S P : Point F}
    (hS : G.add S none = S) (hv : coeffs[place.1.toNat]? = some v) (hn : v.number? = some n)
    (hP : points[place.2.toNat]? = some P) :
    term G points coeffs S place = .ok (G.add S (G.mul n.toInt P)) := by
  simp only [term, hv, Value.number, hn, hP]
  change (if n.toInt = 0 then pure S else pure (G.add S (G.mul n.toInt P))) = _
  split
  · next hzero =>
    have hmul : G.mul 0 P = none := repeated_zero G.add none P
    rw [hzero, hmul, hS]
    rfl
  · rfl

/-- The sum with a constant alone is its multiple of the first point, also where it is skipped. -/
theorem sum_singleton (hnone : ∀ P, G.add none P = P) (hpoints : points ≠ []) (c : Fr) :
    sum G points [.scalar c] 0 1 = .ok (G.scale c (points.headD none)) := by
  obtain ⟨P, points, rfl⟩ := List.exists_cons_of_ne_nil hpoints
  have hplaces : places 0 1 = [(0, 0)] := rfl
  have hterm : term G (P :: points) [.scalar c] none (0, 0) =
      .ok (G.add none (G.mul (Number.scalar c).toInt P)) :=
    term_eq_add (hnone none) rfl rfl rfl
  rw [sum, hplaces, List.foldlM_cons, hterm, hnone]
  rfl

/-! ### Members -/

variable [G.Lawful]

/-- A term adds the multiple of its member. -/
theorem term_eq {place : Int × Int} {v : Value} {c : Fr} {P : G.Member}
    (hv : coeffs[place.1.toNat]? = some v) (hc : v.toFr = .ok c)
    (hP : points[place.2.toNat]? = some P.point) (S : G.Member) :
    term G points coeffs S.point place = .ok (S + c • P).point := by
  obtain ⟨n, hn, rfl⟩ := Value.toFr_eq_ok_iff.mp hc
  have hS : G.add S.point none = S.point := congrArg Member.point (add_zero S)
  rw [term_eq_add hS hv hn hP, mul_toInt, ← Member.point_add]

/-- The terms at the places `k, k + 1, …` add a combination. -/
theorem foldlM_term {place : ℕ → Int × Int} {l : List Fr} {Ps : List G.Member}
    (hlength : l.length ≤ Ps.length) (k : ℕ)
    (hcoeffs : ∀ (i : ℕ) (h : i < l.length),
      ∃ v, coeffs[(place (k + i)).1.toNat]? = some v ∧ v.toFr = .ok l[i])
    (hpoints : ∀ (i : ℕ) (h : i < Ps.length), points[(place (k + i)).2.toNat]? = some Ps[i].point)
    (S : G.Member) :
    ((List.range' k l.length).map place).foldlM (term G points coeffs) S.point =
      .ok (S + combination l Ps).point := by
  induction l generalizing k Ps S with
  | nil => rw [combination_nil, add_zero]; rfl
  | cons c l ih =>
    obtain ⟨P, Ps, rfl⟩ := List.exists_cons_of_length_pos ((Nat.succ_pos _).trans_le hlength)
    obtain ⟨v, hv, hc⟩ := hcoeffs 0 (Nat.succ_pos _)
    have hfirst : term G points coeffs S.point (place k) = .ok (S + c • P).point :=
      term_eq hv hc (hpoints 0 (Nat.succ_pos _)) S
    have hrest := ih (Nat.le_of_succ_le_succ hlength) (k + 1)
      (fun i h => by
        rw [show k + 1 + i = k + (i + 1) by omega]
        exact hcoeffs (i + 1) (Nat.succ_lt_succ h))
      (fun i h => by
        rw [show k + 1 + i = k + (i + 1) by omega]
        exact hpoints (i + 1) (Nat.succ_lt_succ h))
      (S + c • P)
    rw [List.length_cons, List.range'_succ, List.map_cons, List.foldlM_cons, hfirst,
      combination_cons, ← add_assoc]
    exact hrest

/-- The sum over a window of as many coefficients as it is wide. -/
theorem sum_eq {p : Poly} {Ps : List G.Member} (hlength : p.length ≤ Ps.length)
    (hcoeffs : Poly.StandFor coeffs p) (offset : ℕ) :
    sum G (Ps.map Member.point) coeffs offset (offset + p.length : ℕ) =
      .ok (combination p.reverse Ps).point := by
  have hlen := hcoeffs.length_eq
  rw [sum, places, show ((offset + p.length : ℕ) - offset : ℤ).toNat = p.reverse.length by simp,
    List.range_eq_range', ← zero_add (combination p.reverse Ps)]
  refine foldlM_term (by rwa [List.length_reverse]) 0 ?_ ?_ 0
  · intro i h
    rw [List.length_reverse] at h
    have hplace : ((offset + p.length : ℕ) - (offset + 1 + (0 + i : ℕ)) : ℤ).toNat =
        p.length - 1 - i := by omega
    have hi : p.length - 1 - i < coeffs.length := by omega
    rw [hplace, List.getElem_reverse]
    exact ⟨_, List.getElem?_eq_getElem hi, List.Forall₂.get hcoeffs hi (by omega)⟩
  · intro i h
    have hplace : ((offset + 1 + (0 + i : ℕ)) - 1 - offset : ℤ).toNat = i := by omega
    rw [hplace, List.getElem?_map, List.getElem?_eq_getElem h]
    rfl

end Window

end PolyCommit
