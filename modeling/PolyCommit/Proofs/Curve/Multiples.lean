import PolyCommit.Proofs.Curve.Bn254
import PolyCommit.Value.Arithmetic

/-!
# Multiples by numbers

A multiplier is an integer of any size and sign or a scalar, and the library reduces it modulo the
order of the groups before it multiplies. On the members of either group this is an action: sums,
products, differences and negatives of multipliers, whether they are integers, scalars or one of
each, go over into the operations on points. The scalar that a number stands for respects the
arithmetic of numbers, and on members the multiple by a number is the one by its scalar; the rest is
linear algebra over the field of scalars.
-/

namespace PolyCommit

/-! ### Arithmetic of numbers -/

namespace Number

/-- An operation on numbers: between integers it gives an integer, otherwise a scalar. -/
def combine (onInts : ℤ → ℤ → ℤ) (onScalars : Fr → Fr → Fr) : Number → Number → Number
  | int k, int l => int (onInts k l)
  | m, n => scalar (onScalars m.toFr n.toFr)

instance : Add Number := ⟨combine (· + ·) (· + ·)⟩

instance : Sub Number := ⟨combine (· - ·) (· - ·)⟩

instance : Mul Number := ⟨combine (· * ·) (· * ·)⟩

instance : Neg Number where
  neg
    | int k => int (-k)
    | scalar x => scalar (-x)

/-- An operation on integers that follows one on their classes follows it on all numbers. -/
theorem toFr_combine {onInts : ℤ → ℤ → ℤ} {onScalars : Fr → Fr → Fr}
    (h : ∀ k l, Residue.ofInt (onInts k l) = onScalars (Residue.ofInt k) (Residue.ofInt l))
    (m n : Number) : (combine onInts onScalars m n).toFr = onScalars m.toFr n.toFr := by
  cases m with
  | int k =>
    cases n with
    | int l => exact h k l
    | scalar y => rfl
  | scalar x => rfl

/-- The scalar of a sum is the sum of the scalars. -/
theorem toFr_add (m n : Number) : (m + n).toFr = m.toFr + n.toFr :=
  toFr_combine (fun _ _ => Residue.toZMod_injective (by simp)) m n

/-- The scalar of a difference is the difference of the scalars. -/
theorem toFr_sub (m n : Number) : (m - n).toFr = m.toFr - n.toFr :=
  toFr_combine (fun _ _ => Residue.toZMod_injective (by simp)) m n

/-- The scalar of a product is the product of the scalars. -/
theorem toFr_mul (m n : Number) : (m * n).toFr = m.toFr * n.toFr :=
  toFr_combine (fun _ _ => Residue.toZMod_injective (by simp)) m n

/-- The scalar of an opposite is the opposite of the scalar. -/
theorem toFr_neg (n : Number) : (-n).toFr = -n.toFr := by
  cases n with
  | int k =>
    change (Residue.ofInt (-k) : Fr) = -Residue.ofInt k
    exact Residue.toZMod_injective (by simp)
  | scalar x => rfl

/-- A number stands for zero exactly if the order of the groups divides it. -/
theorem toFr_eq_zero_iff (n : Number) : n.toFr = 0 ↔ (groupOrder : ℤ) ∣ n.toInt := by
  cases n with
  | int k =>
    change (Residue.ofInt k : Fr) = 0 ↔ (groupOrder : ℤ) ∣ k
    rw [← Residue.toZMod_injective.eq_iff, Residue.toZMod_ofInt, Residue.toZMod_zero,
      ZMod.intCast_zmod_eq_zero_iff_dvd]
  | scalar x =>
    change x = 0 ↔ (groupOrder : ℤ) ∣ x.val
    rw [← Residue.toZMod_injective.eq_iff, Residue.toZMod_zero, Int.natCast_dvd_natCast,
      ← ZMod.natCast_eq_zero_iff]
    rfl

end Number

namespace Value

variable {v w : Value} {m n : Number}

/-- The operations on values are those on the numbers that they are. -/
theorem combine_eq (hv : v.number? = some m) (hw : w.number? = some n) :
    combine .add v w = .ok (m + n).toFr ∧ combine .sub v w = .ok (m - n).toFr ∧
      combine .mul v w = .ok (m * n).toFr ∧ negate v = .ok (-m) := by
  have hv' : v.number = .ok m := by rw [number, hv]
  have hw' : w.number = .ok n := by rw [number, hw]
  rw [Number.toFr_add, Number.toFr_sub, Number.toFr_mul, combine, combine, combine, negate, hv',
    hw']
  refine ⟨rfl, rfl, rfl, ?_⟩
  cases m <;> rfl

end Value

/-! ### The action on the members of a group -/

namespace PointGroup

variable {F : Type}

/-- Whether the numbers act on the members of a group by the library's multiples. -/
structure IsAction (G : PointGroup F) : Prop where
  mul_add : ∀ P, G.contains P = true → ∀ s t : Number,
    G.mul (s + t).toInt P = G.add (G.mul s.toInt P) (G.mul t.toInt P)
  mul_mul : ∀ P, G.contains P = true → ∀ s t : Number,
    G.mul (s * t).toInt P = G.mul s.toInt (G.mul t.toInt P)
  mul_neg : ∀ P, G.contains P = true → ∀ s : Number,
    G.mul (-s).toInt P = G.neg (G.mul s.toInt P)
  sub_mul : ∀ P, G.contains P = true → ∀ s t : Number,
    G.sub (G.mul s.toInt P) (G.mul t.toInt P) = G.mul (s - t).toInt P
  /-- Multiples are members again, and their order divides that of the group. -/
  contains_mul : ∀ P, G.contains P = true → ∀ s : Number,
    G.contains (G.mul s.toInt P) = true ∧ G.multiple groupOrder (G.mul s.toInt P) = none
  /-- Only the multiples of the order take a member other than the identity to the identity. -/
  mul_eq_none_iff : ∀ P, G.contains P = true → P ≠ none → ∀ s : Number,
    (G.mul s.toInt P = none ↔ (groupOrder : ℤ) ∣ s.toInt)

/-- The numbers act on every lawful group. -/
theorem isAction_of_lawful (G : PointGroup F) [G.Lawful] : G.IsAction where
  mul_add P hP s t := by
    obtain ⟨M, rfl⟩ := Member.exists_point_eq hP
    rw [mul_toInt, mul_toInt, mul_toInt, Number.toFr_add, add_smul, Member.point_add]
  mul_mul P hP s t := by
    obtain ⟨M, rfl⟩ := Member.exists_point_eq hP
    rw [mul_toInt, mul_toInt, mul_toInt, Number.toFr_mul, mul_smul]
  mul_neg P hP s := by
    obtain ⟨M, rfl⟩ := Member.exists_point_eq hP
    rw [mul_toInt, mul_toInt, Number.toFr_neg, neg_smul, Member.point_neg]
  sub_mul P hP s t := by
    obtain ⟨M, rfl⟩ := Member.exists_point_eq hP
    rw [mul_toInt, mul_toInt, mul_toInt, Number.toFr_sub, sub_smul, Member.point_sub]
  contains_mul P hP s := by
    obtain ⟨M, rfl⟩ := Member.exists_point_eq hP
    rw [mul_toInt]
    exact ⟨Member.contains_point _, Lawful.multiple_groupOrder (Member.contains_point _)⟩
  mul_eq_none_iff P hP hne s := by
    obtain ⟨M, rfl⟩ := Member.exists_point_eq hP
    have hM : M ≠ 0 := fun h => hne (Member.point_eq_none_iff.mpr h)
    rw [mul_toInt, Member.point_eq_none_iff, smul_eq_zero_iff_left hM, Number.toFr_eq_zero_iff]

end PointGroup

namespace Bn254

/-- The numbers act on the points of the first curve and on the points of the twist whose order
divides that of the group. -/
theorem numbers_act : group₁.IsAction ∧ group₂.IsAction :=
  ⟨group₁.isAction_of_lawful, group₂.isAction_of_lawful⟩

/-- A negative integer and a scalar add up on the base of the first group; a negative multiple of
the order takes the base of the second to the identity, and one more than the order does not. -/
theorem numbers_act_bases :
    group₁.mul (Number.int (-3) + .scalar (.ofNat 5)).toInt group₁.base =
      group₁.add (group₁.mul (-3) group₁.base) (group₁.mul 5 group₁.base) ∧
    group₂.mul (-groupOrder) group₂.base = none ∧
    group₂.mul (groupOrder + 1) group₂.base ≠ none := by
  have hnone (k : ℤ) : group₂.mul k group₂.base = none ↔ (groupOrder : ℤ) ∣ k :=
    numbers_act.2.mul_eq_none_iff _ PointGroup.Lawful.contains_base PointGroup.Lawful.base_ne_none
      (.int k)
  refine ⟨?sum, (hnone _).mpr (dvd_neg.mpr dvd_rfl), fun h => ?beyond⟩
  case sum =>
    exact numbers_act.1.mul_add _ PointGroup.Lawful.contains_base (.int (-3)) (.scalar (.ofNat 5))
  case beyond => exact absurd ((hnone _).mp h) (by decide)

end Bn254

end PolyCommit
