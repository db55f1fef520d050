import PolyCommit.Proofs.Curve.Homogeneous
import PolyCommit.Proofs.Curve.PointGroup
import PolyCommit.Proofs.Field.Quadratic
import Mathlib.FieldTheory.Finite.Basic
import Mathlib.GroupTheory.Perm.Cycle.Type

/-!
# The two groups of points are lawful

Both curves are regular: the opposites of their constants are no cubes, which one power in each
field shows. On the first curve every point has order dividing `groupOrder`. Its number of points is
a multiple of `groupOrder`, because the base has that order; it is below three times `groupOrder`,
because every abscissa has at most two ordinates; and it is odd, because no point is its own
opposite. On the twist the order is part of the membership test.
-/

namespace PolyCommit

/-! ### Curves over finite fields -/

section Finite

variable {F : Type} [Field F]

/-- An element whose power with exponent `(|F| - 1) / 3` is not one is no cube. -/
theorem cube_ne_of_pow_ne_one [Finite F] {c : F} {e : ℕ} (he : 3 * e = Nat.card F - 1) (hc : c ≠ 0)
    (hpow : c ^ e ≠ 1) (x : F) : x ^ 3 ≠ c := by
  intro h
  have hx : x ≠ 0 := by
    rintro rfl
    exact hc (by rw [← h, zero_pow (by decide)])
  have := Fintype.ofFinite F
  apply hpow
  rw [← h, ← pow_mul, he, Nat.card_eq_fintype_card]
  exact FiniteField.pow_card_sub_one_eq_one x hx

open Classical in
/-- One ordinate for each abscissa that has any. -/
noncomputable def root (b x : F) : F :=
  if h : ∃ y, y * y - x * x * x = b then h.choose else 0

variable {b : F}

/-- The chosen ordinate solves the equation of the curve, where there is a solution. -/
theorem root_spec {x y : F} (h : y * y - x * x * x = b) :
    root b x * root b x - x * x * x = b := by
  have hex : ∃ y, y * y - x * x * x = b := ⟨y, h⟩
  rw [root, dif_pos hex]
  exact hex.choose_spec

variable [DecidableEq F]

/-- A point by its abscissa and one bit for its ordinate. -/
noncomputable def compressed : (shortCurve b).Point → Option (F × Bool)
  | .zero => none
  | .some x y _ => some (x, y = root b x)

/-- The abscissa and the bit tell the point. -/
theorem compressed_injective :
    Function.Injective (compressed : (shortCurve b).Point → Option (F × Bool)) := by
  rintro (_ | ⟨x, y, h⟩) (_ | ⟨x', y', h'⟩) heq
  · rfl
  · exact absurd heq.symm (Option.some_ne_none _)
  · exact absurd heq (Option.some_ne_none _)
  · simp only [compressed, Option.some.injEq, Prod.mk.injEq, decide_eq_decide] at heq
    obtain ⟨rfl, hbit⟩ := heq
    have hy := (shortCurve_equation_iff x y).mp h.1
    have hy' := (shortCurve_equation_iff x y').mp h'.1
    have hroot := root_spec hy
    have hside : y = root b x ∨ y = -root b x :=
      mul_self_eq_mul_self_iff.mp (by linear_combination hy - hroot)
    have hside' : y' = root b x ∨ y' = -root b x :=
      mul_self_eq_mul_self_iff.mp (by linear_combination hy' - hroot)
    have : y = y' := by
      rcases hside with h₁ | h₁
      · exact h₁.trans (hbit.mp h₁).symm
      · rcases hside' with h₂ | h₂
        · exact (hbit.mpr h₂).trans h₂.symm
        · exact h₁.trans h₂.symm
    subst this
    rfl

variable [Finite F]

instance : Finite (shortCurve b).Point := Finite.of_injective compressed compressed_injective

/-- Every abscissa has at most two ordinates. -/
theorem card_point_le : Nat.card (shortCurve b).Point ≤ 2 * Nat.card F + 1 := by
  have h := Nat.card_le_card_of_injective compressed (compressed_injective (b := b))
  rw [Finite.card_option, Nat.card_prod, (Nat.card_eq_fintype_card : Nat.card Bool = _),
    Fintype.card_bool, mul_comm] at h
  exact h

/-- A regular curve has an odd number of points. -/
theorem not_two_dvd_card_point (hb : Regular b) : ¬2 ∣ Nat.card (shortCurve b).Point := by
  intro h
  have : Fact (Nat.Prime 2) := ⟨Nat.prime_two⟩
  obtain ⟨w, hw⟩ := exists_prime_addOrderOf_dvd_card' 2 h
  have hself : w + w = 0 := by rw [← two_nsmul, ← hw, addOrderOf_nsmul_eq_zero]
  have hne : w ≠ 0 := by
    rintro rfl
    rw [addOrderOf_zero] at hw
    exact absurd hw (by decide)
  rcases w with _ | ⟨x, y, hxy⟩
  · exact hne rfl
  · have hopp := congrArg coordinates (eq_neg_of_add_eq_zero_left hself)
    rw [coordinates_neg, coordinates_some] at hopp
    have hy : y = -y := congrArg Affine.y (Option.some.inj hopp)
    exact hb.add_self_ne_zero ((shortCurve_equation_iff x y).mp hxy.1) (by linear_combination hy)

/-- If a point has prime order `r` and the field has fewer than `(3·r - 1) / 2` elements, then all
points of a regular curve have order dividing `r`. -/
theorem nsmul_eq_zero_of_card_lt (hb : Regular b) {r : ℕ} (hr : r.Prime)
    (hcard : 2 * Nat.card F + 1 < 3 * r) {g : (shortCurve b).Point} (hg : r • g = 0) (hne : g ≠ 0)
    (w : (shortCurve b).Point) : r • w = 0 := by
  have : Fact r.Prime := ⟨hr⟩
  have horder : addOrderOf g = r := addOrderOf_eq_prime hg hne
  obtain ⟨m, hm⟩ : r ∣ Nat.card (shortCurve b).Point := horder ▸ addOrderOf_dvd_natCard g
  have hlt : r * m < r * 3 := by
    rw [← hm, mul_comm r 3]
    exact (card_point_le (b := b)).trans_lt hcard
  have hm3 : m < 3 := Nat.lt_of_mul_lt_mul_left hlt
  have hodd := hm ▸ not_two_dvd_card_point hb
  have hone : m = 1 := by
    interval_cases m
    · exact absurd (dvd_zero 2) hodd
    · rfl
    · exact absurd (dvd_mul_left 2 r) hodd
  rw [hone, mul_one] at hm
  rw [← hm]
  exact card_nsmul_eq_zero'

end Finite

/-! ### Lawful groups -/

section Lawful

variable {F : Type} [Field F] [DecidableEq F] {b : F} {G : PointGroup F}

/-- The library's multiples are those of the curve. -/
theorem multiple_coordinates (hb : Regular b) (hadd : G.add = Point.add) (k : ℕ)
    (w : (shortCurve b).Point) : G.multiple k (coordinates w) = coordinates (k • w) :=
  repeated_rel (M := Multiplicative (shortCurve b).Point) (R := fun Q v => Q = coordinates v.toAdd)
    rfl (fun hx hy => by rw [hx, hy, hadd, ← coordinates_add hb]; rfl) k (a := .ofAdd w) rfl

/-- Points whose multiples by `groupOrder` vanish form a lawful group under the formulas. -/
theorem lawful_of_coordinates (hb : Regular b) (hadd : G.add = Point.add) (hneg : G.neg = Point.neg)
    (hmem : ∀ P, G.contains P = true ↔
      ∃ w : (shortCurve b).Point, coordinates w = P ∧ groupOrder • w = 0)
    (hbase : G.contains G.base = true) (hne : G.base ≠ none) : G.Lawful where
  contains_none := (hmem none).mpr ⟨0, rfl, nsmul_zero _⟩
  contains_add hP hQ := by
    obtain ⟨v, rfl, hv⟩ := (hmem _).mp hP
    obtain ⟨w, rfl, hw⟩ := (hmem _).mp hQ
    rw [hadd, ← coordinates_add hb]
    exact (hmem _).mpr ⟨v + w, rfl, by rw [nsmul_add, hv, hw, add_zero]⟩
  contains_neg hP := by
    obtain ⟨w, rfl, hw⟩ := (hmem _).mp hP
    rw [hneg, ← coordinates_neg]
    exact (hmem _).mpr ⟨-w, rfl, by rw [neg_nsmul, hw, neg_zero]⟩
  none_add _ := by rw [hadd, Point.none_add]
  add_comm hP hQ := by
    obtain ⟨v, rfl, -⟩ := (hmem _).mp hP
    obtain ⟨w, rfl, -⟩ := (hmem _).mp hQ
    rw [hadd, ← coordinates_add hb, ← coordinates_add hb, add_comm]
  add_assoc hP hQ hR := by
    obtain ⟨u, rfl, -⟩ := (hmem _).mp hP
    obtain ⟨v, rfl, -⟩ := (hmem _).mp hQ
    obtain ⟨w, rfl, -⟩ := (hmem _).mp hR
    simp only [hadd, ← coordinates_add hb, add_assoc]
  neg_add hP := by
    obtain ⟨w, rfl, -⟩ := (hmem _).mp hP
    rw [hadd, hneg, ← coordinates_neg, ← coordinates_add hb, neg_add_cancel, coordinates_zero]
  multiple_groupOrder hP := by
    obtain ⟨w, rfl, hw⟩ := (hmem _).mp hP
    rw [multiple_coordinates hb hadd, hw, coordinates_zero]
  contains_base := hbase
  base_ne_none := hne

end Lawful

namespace Bn254

/-- The first curve is regular. -/
theorem curveB_regular : Regular curveB where
  two_ne_zero := by decide +kernel
  cube_ne := by
    apply cube_ne_of_pow_ne_one (e := (fieldModulus - 1) / 3)
    · rw [Residue.card_eq]
      decide +kernel
    · decide +kernel
    · rw [← Residue.pow_eq]
      decide +kernel

/-- The twist is regular. -/
theorem twistB_regular : Regular twistB where
  two_ne_zero := by decide +kernel
  cube_ne := by
    apply cube_ne_of_pow_ne_one (e := (fieldModulus * fieldModulus - 1) / 3)
    · rw [Fq2.card_eq]
      decide +kernel
    · decide +kernel
    · rw [← Fq2.pow_eq]
      decide +kernel

/-- The members of the first group are the points on the curve. -/
theorem onCurve₁_eq (P : Point Fq) : onCurve₁ P = P.onCurve curveB := by
  cases P <;> rfl

/-- The standard generator of the first group has order `groupOrder`. -/
theorem hasOrder_base₁ : Homogeneous.hasOrder groupOrder base₁ = true := by decide +kernel

/-- Every point of the first curve has order dividing `groupOrder`. -/
theorem groupOrder_nsmul₁ (w : (shortCurve curveB).Point) : groupOrder • w = 0 := by
  obtain ⟨g, hg⟩ := (onCurve_iff curveB_regular (some base₁)).mp (by decide +kernel)
  refine nsmul_eq_zero_of_card_lt curveB_regular groupOrder_prime.out ?_
    ((Homogeneous.hasOrder_iff curveB_regular (by decide) hg).mp hasOrder_base₁) ?_ w
  · rw [Residue.card_eq]
    decide +kernel
  · rintro rfl
    exact absurd hg.symm (Option.some_ne_none _)

/-- The points of the first curve form a lawful group. -/
instance group₁_lawful : group₁.Lawful :=
  lawful_of_coordinates curveB_regular rfl rfl
    (fun P => by
      rw [show group₁.contains P = P.onCurve curveB from onCurve₁_eq P, onCurve_iff curveB_regular]
      exact exists_congr fun w => (and_iff_left (groupOrder_nsmul₁ w)).symm)
    (by decide +kernel) (Option.some_ne_none _)

/-- The membership test of the second group accepts exactly the points of the twist whose order
divides `groupOrder`. -/
theorem inSubgroup₂_iff (Q : Point Fq2) : inSubgroup₂ Q = true ↔
    ∃ w : (shortCurve twistB).Point, coordinates w = Q ∧ groupOrder • w = 0 := by
  cases Q with
  | none => exact iff_of_true rfl ⟨0, rfl, nsmul_zero _⟩
  | some A =>
    rw [inSubgroup₂, Bool.and_eq_true]
    constructor
    · rintro ⟨hcurve, horder⟩
      obtain ⟨w, hw⟩ := (onCurve_iff twistB_regular (some A)).mp hcurve
      exact ⟨w, hw, (Homogeneous.hasOrder_iff twistB_regular (by decide) hw).mp horder⟩
    · rintro ⟨w, hw, horder⟩
      exact ⟨(onCurve_iff twistB_regular (some A)).mpr ⟨w, hw⟩,
        (Homogeneous.hasOrder_iff twistB_regular (by decide) hw).mpr horder⟩

/-- The members of the second group are on the twist. -/
theorem onTwist_of_inSubgroup₂ {Q : Point Fq2} (h : inSubgroup₂ Q = true) : onTwist Q = true := by
  cases Q with
  | none => rfl
  | some A => exact (Bool.and_eq_true_iff.mp h).1

/-- The points of the twist whose order divides `groupOrder` form a lawful group. -/
instance group₂_lawful : group₂.Lawful :=
  lawful_of_coordinates twistB_regular rfl rfl inSubgroup₂_iff (by decide +kernel)
    (Option.some_ne_none _)

end Bn254

end PolyCommit
