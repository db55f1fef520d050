import PolyCommit.Proofs.Commitment.Window
import PolyCommit.Curve.Bn254
import Mathlib.Data.Int.ModEq
import Mathlib.Data.List.GetD
import Mathlib.Data.List.Nodup

/-!
# What a window pairs and what a sum over it adds

The places of a window run against each other: every coefficient and every power that it covers has
one place, and the two places of a pair add up to one less than the width of the window.

A sum over a window adds its terms from the first point on, and none is missed. The test that skips
a term compares integers as they are, so the other multiples of the order of the groups pass it; but
their multiples of a point are the identity, which adds nothing. No law of groups is needed beyond
that, so the points may lie anywhere.
-/

namespace PolyCommit

/-- Integers of one class have the same multiple of a point, whatever its order. -/
theorem PointGroup.mul_congr {F : Type} {G : PointGroup F} {k l : ℤ} (h : k ≡ l [ZMOD groupOrder])
    (P : Point F) : G.mul k P = G.mul l P := by
  rw [mul, h, mul]

namespace Window

/-! ### Places -/

/-- What visits the integers from zero up to `w` and no others, none of them twice, visits each of
them once. -/
theorem count_map_range {place : ℕ → ℤ} (hplace : Function.Injective place) {w : ℤ}
    (hmem : ∀ j, (∃ k < w.toNat, place k = j) ↔ 0 ≤ j ∧ j < w) (j : ℤ) :
    ((List.range w.toNat).map place).count j = if 0 ≤ j ∧ j < w then 1 else 0 := by
  rw [(List.nodup_range.map hplace).count]
  simp only [List.mem_map, List.mem_range, hmem]

/-- Each coefficient that a window covers has one place. -/
theorem count_map_fst_places (offset degree j : ℤ) :
    ((places offset degree).map Prod.fst).count j =
      if 0 ≤ j ∧ j < degree - offset then 1 else 0 := by
  rw [places_eq_map, List.map_map]
  apply count_map_range
  · exact fun k l h => Int.natCast_inj.mp (sub_right_inj.mp h)
  · intro j
    constructor
    · rintro ⟨k, hk, rfl⟩
      change 0 ≤ degree - offset - 1 - k ∧ degree - offset - 1 - k < degree - offset
      omega
    · intro h
      refine ⟨(degree - offset - 1 - j).toNat, by omega, ?_⟩
      change degree - offset - 1 - ((degree - offset - 1 - j).toNat : ℤ) = j
      omega

/-- Each power that a window covers has one place. -/
theorem count_map_snd_places (offset degree j : ℤ) :
    ((places offset degree).map Prod.snd).count j =
      if 0 ≤ j ∧ j < degree - offset then 1 else 0 := by
  rw [places_eq_map, List.map_map]
  apply count_map_range
  · exact fun k l h => Int.natCast_inj.mp h
  · intro j
    constructor
    · rintro ⟨k, hk, rfl⟩
      change 0 ≤ (k : ℤ) ∧ (k : ℤ) < degree - offset
      omega
    · exact fun h => ⟨j.toNat, by omega, Int.toNat_of_nonneg h.1⟩

/-- The two places of a pair add up to the same number throughout. -/
theorem add_eq_of_mem_places {offset degree : ℤ} {place : ℤ × ℤ}
    (h : place ∈ places offset degree) : place.1 + place.2 = degree - offset - 1 := by
  rw [places_eq_map] at h
  obtain ⟨k, -, rfl⟩ := List.mem_map.mp h
  exact sub_add_cancel _ _

/-- There are no places if the degree does not go beyond the offset. -/
theorem places_eq_nil {offset degree : ℤ} (h : degree ≤ offset) : places offset degree = [] := by
  rw [places_eq_map, Int.toNat_of_nonpos (sub_nonpos.mpr h), List.range_zero, List.map_nil]

/-- What the window of an offset and a degree pairs. -/
structure Aligned (offset degree : ℤ) : Prop where
  /-- The places of the powers rise from zero, and those of the coefficients fall to zero. -/
  eq_map : places offset degree =
    (List.range (degree - offset).toNat).map fun k : ℕ => (degree - offset - 1 - k, (k : ℤ))
  eq_nil : degree ≤ offset → places offset degree = []
  count_fst : ∀ j : ℤ, ((places offset degree).map Prod.fst).count j =
    if 0 ≤ j ∧ j < degree - offset then 1 else 0
  count_snd : ∀ j : ℤ, ((places offset degree).map Prod.snd).count j =
    if 0 ≤ j ∧ j < degree - offset then 1 else 0
  add_eq : ∀ place ∈ places offset degree, place.1 + place.2 = degree - offset - 1
  eq_zero_offset : places offset degree = places 0 (degree - offset)

/-- The places of every window are aligned. -/
theorem aligned (offset degree : ℤ) : Aligned offset degree where
  eq_map := places_eq_map offset degree
  eq_nil := places_eq_nil
  count_fst := count_map_fst_places offset degree
  count_snd := count_map_snd_places offset degree
  add_eq _ := add_eq_of_mem_places
  eq_zero_offset := places_offset offset degree

/-! ### Sums -/

/-- Whether the values of a list are these numbers, one by one. -/
def AreNumbers (coeffs : List Value) (ns : List Number) : Prop :=
  coeffs.map Value.number? = ns.map some

variable {F : Type} {G : PointGroup F} {points : List (Point F)} {coeffs : List Value}
  {ns : List Number}

/-- There are as many numbers as coefficients. -/
theorem AreNumbers.length_eq (h : AreNumbers coeffs ns) : coeffs.length = ns.length := by
  simpa using congrArg List.length h

/-- The number at a place is that of the coefficient there. -/
theorem AreNumbers.map_getElem? (h : AreNumbers coeffs ns) (i : ℕ) :
    coeffs[i]?.map Value.number? = ns[i]?.map some := by
  rw [← List.getElem?_map, h, List.getElem?_map]

/-- A coefficient has the number at its place. -/
theorem AreNumbers.getElem?_eq (h : AreNumbers coeffs ns) {i : ℕ} {v : Value} {n : Number}
    (hv : coeffs[i]? = some v) (hn : v.number? = some n) : ns[i]? = some n := by
  have hi := h.map_getElem? i
  rw [hv, Option.map_some, hn] at hi
  exact Option.map_injective (Option.some_injective _) hi.symm

/-- The value at a place is the number at that place. -/
theorem AreNumbers.exists_getElem? (h : AreNumbers coeffs ns) {i : ℕ} (hi : i < coeffs.length) :
    ∃ v, coeffs[i]? = some v ∧ v.number? = some (ns.getD i (.int 0)) := by
  have hns : i < ns.length := h.length_eq ▸ hi
  have hnumber := h.map_getElem? i
  rw [List.getElem?_eq_getElem hi, List.getElem?_eq_getElem hns] at hnumber
  rw [List.getD_eq_getElem _ _ hns]
  exact ⟨coeffs[i], List.getElem?_eq_getElem hi, Option.some.inj hnumber⟩

/-- Changing a coefficient changes the number at its place. -/
theorem AreNumbers.set (h : AreNumbers coeffs ns) {w : Value} {n : Number}
    (hw : w.number? = some n) (i : ℕ) : AreNumbers (coeffs.set i w) (ns.set i n) := by
  rw [AreNumbers, List.map_set, List.map_set, h, hw]

/-- The multiples of the first `n` points by the first `n` numbers, the first point with the last of
these numbers, added one by one from the first point on. -/
def plainSum (G : PointGroup F) (points : List (Point F)) (ns : List Number) (n : ℕ) : Point F :=
  (List.range n).foldl (fun S k =>
    G.add S (G.mul (ns.getD (n - 1 - k) (.int 0)).toInt (points.getD k none))) none

/-- The sum over a window adds every term, if numbers and points are there for all places. -/
theorem sum_eq_plainSum (hnone : ∀ P, G.add P none = P) (hns : AreNumbers coeffs ns)
    {offset degree : ℤ} (hcoeffs : degree - offset ≤ coeffs.length)
    (hpoints : degree - offset ≤ points.length) :
    sum G points coeffs offset degree = .ok (plainSum G points ns (degree - offset).toNat) := by
  rw [sum, places_eq_map, List.foldlM_map, plainSum]
  refine (foldlM_congr (fun S k hk => ?_) none).trans List.foldlM_pure
  rw [List.mem_range] at hk
  have hplace : (degree - offset - 1 - k).toNat = (degree - offset).toNat - 1 - k := by omega
  obtain ⟨v, hv, hn⟩ := hns.exists_getElem?
    (show (degree - offset).toNat - 1 - k < coeffs.length by omega)
  have hP : points[k]? = some (points.getD k none) := by
    rw [List.getD_eq_getElem _ _ (by omega), List.getElem?_eq_getElem (by omega)]
  exact term_eq_add (hnone S) (hplace ▸ hv) hn hP

/-- A congruent number in the place of another has the same multiples everywhere. -/
theorem mul_getD_set {i : ℕ} {k l : ℤ} (hi : ns[i]? = some (.int k))
    (h : k ≡ l [ZMOD groupOrder]) (j : ℕ) (P : Point F) :
    G.mul ((ns.set i (.int l)).getD j (.int 0)).toInt P = G.mul (ns.getD j (.int 0)).toInt P := by
  rw [List.getD_eq_getElem?_getD, List.getD_eq_getElem?_getD]
  by_cases hj : i = j
  · subst hj
    have hlt : i < ns.length := (List.getElem?_eq_some_iff.mp hi).1
    rw [List.getElem?_set_self hlt, hi]
    exact (PointGroup.mul_congr h P).symm
  · rw [List.getElem?_set_ne hj]

/-- Another integer of the same class in the place of one changes no term. -/
theorem plainSum_set {i : ℕ} {k l : ℤ} (hi : ns[i]? = some (.int k))
    (h : k ≡ l [ZMOD groupOrder]) (points : List (Point F)) (n : ℕ) :
    plainSum G points (ns.set i (.int l)) n = plainSum G points ns n := by
  simp only [plainSum, mul_getD_set hi h]

/-- What the sum over the window of an offset and a degree adds, the coefficients being numbers. -/
structure AddsAll (G : PointGroup F) (offset degree : ℤ) (points : List (Point F))
    (coeffs : List Value) (ns : List Number) : Prop where
  sum_eq_zero_offset : sum G points coeffs offset degree = sum G points coeffs 0 (degree - offset)
  /-- The sum exists, and no term is skipped. -/
  sum_eq : sum G points coeffs offset degree = .ok (plainSum G points ns (degree - offset).toNat)
  /-- Of an integer only its class modulo the order of the groups matters. -/
  sum_set : ∀ (i : ℕ) (v w : Value) (k l : ℤ), coeffs[i]? = some v → v.number? = some (.int k) →
    w.number? = some (.int l) → k ≡ l [ZMOD groupOrder] →
    sum G points (coeffs.set i w) offset degree = sum G points coeffs offset degree

/-- A window within its lists adds all of its terms. -/
theorem addsAll (hnone : ∀ P, G.add P none = P) (hns : AreNumbers coeffs ns) {offset degree : ℤ}
    (hcoeffs : degree - offset ≤ coeffs.length) (hpoints : degree - offset ≤ points.length) :
    AddsAll G offset degree points coeffs ns where
  sum_eq_zero_offset := sum_offset offset degree
  sum_eq := sum_eq_plainSum hnone hns hcoeffs hpoints
  sum_set i v w k l hv hk hw h := by
    -- A zero may stand for a multiple of the order that is not skipped: only the plain sums agree
    -- term by term.
    rw [sum_eq_plainSum hnone hns hcoeffs hpoints,
      sum_eq_plainSum hnone (hns.set hw i) (by rwa [List.length_set]) hpoints,
      plainSum_set (hns.getElem?_eq hv hk) h]

open Bn254

/-- Every window pairs each of its coefficients with one power, and the sums over it add all terms
from the first point on. The points may be any pairs of coordinates of either group. -/
theorem aligned_addsAll (offset degree : ℤ) :
    Aligned offset degree ∧
    ∀ (coeffs : List Value) (ns : List Number), AreNumbers coeffs ns →
      degree - offset ≤ coeffs.length →
      (∀ points : List (Point Fq), degree - offset ≤ points.length →
        AddsAll group₁ offset degree points coeffs ns) ∧
      (∀ points : List (Point Fq2), degree - offset ≤ points.length →
        AddsAll group₂ offset degree points coeffs ns) := by
  refine ⟨aligned offset degree, fun coeffs ns hns hcoeffs => ⟨?_, ?_⟩⟩
  · intro points hpoints
    exact addsAll Point.add_none hns hcoeffs hpoints
  · intro points hpoints
    exact addsAll Point.add_none hns hcoeffs hpoints

/-- A negative offset, points that are not on the curve, and the order of the groups for a
coefficient: it is not skipped, and the sum is the one with zero in its place, which is. -/
theorem aligned_addsAll_unreduced :
    places (-2) 1 = [(2, 0), (1, 1), (0, 2)] ∧
    ∃ points : List (Point Fq), (∀ P ∈ points, onCurve₁ P = false) ∧ ∃ S,
      plainSum group₁ points [.int groupOrder, .scalar 5, .int 1] 3 = S ∧
      sum group₁ points [.int groupOrder, .scalar 5, .bool true] (-2) 1 = .ok S ∧
      sum group₁ points [.int 0, .scalar 5, .bool true] (-2) 1 = .ok S := by
  obtain ⟨haligned, hsums⟩ := aligned_addsAll (-2) 1
  refine ⟨haligned.eq_map, [some ⟨0, 0⟩, some ⟨1, 1⟩, some ⟨5, 7⟩], by decide, _, rfl, ?_⟩
  have hns : AreNumbers [.int groupOrder, .scalar 5, .bool true]
      [.int groupOrder, .scalar 5, .int 1] := rfl
  have hall := (hsums _ _ hns (by decide)).1 [some ⟨0, 0⟩, some ⟨1, 1⟩, some ⟨5, 7⟩] (by decide)
  have hzero := hall.sum_set 0 _ (.int 0) groupOrder 0 rfl rfl rfl (by decide)
  exact ⟨hall.sum_eq, hzero.trans hall.sum_eq⟩

end Window

end PolyCommit
