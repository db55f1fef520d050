import PolyCommit.Curve.PointGroup
import PolyCommit.Proofs.Curve.ChordTangent
import PolyCommit.Proofs.Field.Primality
import PolyCommit.Value.Basic
import Mathlib.Algebra.Module.Defs

/-!
# The members of a group of points are a vector space over the scalars

What the library needs of a group of points is gathered in `PointGroup.Lawful`: the members are
closed under the operations, these obey the laws of a commutative group, and the order of every
member divides `groupOrder`. The members are then a module over the scalars, in which the library's
`scale` is the scalar multiple, so that statements about points become linear algebra.
-/

namespace PolyCommit

namespace PointGroup

variable {F : Type}

/-- The members form a commutative group whose exponent divides `groupOrder`, and the base is a
member other than the identity. -/
class Lawful (G : PointGroup F) : Prop where
  contains_none : G.contains none = true
  contains_add {P Q : Point F} :
    G.contains P = true → G.contains Q = true → G.contains (G.add P Q) = true
  contains_neg {P : Point F} : G.contains P = true → G.contains (G.neg P) = true
  none_add {P : Point F} : G.contains P = true → G.add none P = P
  add_comm {P Q : Point F} :
    G.contains P = true → G.contains Q = true → G.add P Q = G.add Q P
  add_assoc {P Q R : Point F} : G.contains P = true → G.contains Q = true →
    G.contains R = true → G.add (G.add P Q) R = G.add P (G.add Q R)
  neg_add {P : Point F} : G.contains P = true → G.add (G.neg P) P = none
  multiple_groupOrder {P : Point F} : G.contains P = true → G.multiple groupOrder P = none
  contains_base : G.contains G.base = true
  base_ne_none : G.base ≠ none

/-- The members of a group of points. -/
def Member (G : PointGroup F) : Type := { P : Point F // G.contains P = true }

namespace Member

variable {G : PointGroup F}

/-- A member as a point. -/
def point (P : G.Member) : Point F := P.val

/-- The point of a member passes the test. -/
theorem contains_point (P : G.Member) : G.contains P.point = true := P.property

/-- Members with the same point are equal. -/
@[ext] theorem ext {P Q : G.Member} (h : P.point = Q.point) : P = Q := Subtype.ext h

/-- A member is told by its point. -/
theorem point_injective : Function.Injective (point : G.Member → Point F) :=
  Subtype.val_injective

/-- A point that passes the test is that of a member. -/
theorem exists_point_eq {P : Point F} (h : G.contains P = true) : ∃ M : G.Member, M.point = P :=
  ⟨⟨P, h⟩, rfl⟩

/-- Points that all pass the test are those of members. -/
theorem exists_map_point_eq {points : List (Point F)} (h : ∀ P ∈ points, G.contains P = true) :
    ∃ Ps : List G.Member, points = Ps.map point :=
  ⟨points.attachWith _ h, (List.attachWith_map_subtype_val h).symm⟩

variable [G.Lawful]

instance : Zero G.Member := ⟨⟨none, Lawful.contains_none⟩⟩

instance : Add G.Member :=
  ⟨fun P Q => ⟨G.add P.point Q.point, Lawful.contains_add P.contains_point Q.contains_point⟩⟩

instance : Neg G.Member := ⟨fun P => ⟨G.neg P.point, Lawful.contains_neg P.contains_point⟩⟩

instance : AddCommGroup G.Member where
  add_assoc P Q R := ext (Lawful.add_assoc P.contains_point Q.contains_point R.contains_point)
  zero_add P := ext (Lawful.none_add P.contains_point)
  add_zero P := ext ((Lawful.add_comm P.contains_point Lawful.contains_none).trans
    (Lawful.none_add P.contains_point))
  add_comm P Q := ext (Lawful.add_comm P.contains_point Q.contains_point)
  neg_add_cancel P := ext (Lawful.neg_add P.contains_point)
  nsmul := nsmulRec
  zsmul := zsmulRec

/-- Zero is the identity. -/
@[simp] theorem point_zero : (0 : G.Member).point = none := rfl

/-- Members are added as points. -/
@[simp] theorem point_add (P Q : G.Member) : (P + Q).point = G.add P.point Q.point := rfl

/-- The opposite of a member is that of its point. -/
@[simp] theorem point_neg (P : G.Member) : (-P).point = G.neg P.point := rfl

/-- Members are subtracted as points. -/
@[simp] theorem point_sub (P Q : G.Member) : (P - Q).point = G.sub P.point Q.point := by
  rw [sub_eq_add_neg]
  rfl

/-- A member is the identity exactly when its point is. -/
@[simp] theorem point_eq_none_iff {P : G.Member} : P.point = none ↔ P = 0 :=
  point_injective.eq_iff' point_zero

/-- The library's multiples are those of the group. -/
@[simp] theorem point_nsmul (k : ℕ) (P : G.Member) : (k • P).point = G.multiple k P.point :=
  (repeated_rel (f := G.add) (M := Multiplicative G.Member) (R := fun Q m => m.toAdd.point = Q)
    rfl (fun hx hy => by rw [← hx, ← hy]; rfl) k (a := .ofAdd P) rfl :)

/-- The order of a member divides `groupOrder`. -/
theorem groupOrder_nsmul (P : G.Member) : groupOrder • P = 0 :=
  ext ((point_nsmul groupOrder P).trans (Lawful.multiple_groupOrder P.contains_point))

/-- Multiples of a member depend on the remainder by the order alone. -/
theorem mod_nsmul (k : ℕ) (P : G.Member) : (k % groupOrder) • P = k • P :=
  (nsmul_eq_mod_nsmul k (groupOrder_nsmul P)).symm

/-- The scalars act on the members by multiples of their representatives. -/
instance : Module Fr G.Member where
  smul k P := k.val • P
  one_smul P := one_nsmul P
  mul_smul k l P := (mod_nsmul (k.val * l.val) P).trans (mul_nsmul' P k.val l.val)
  smul_zero k := nsmul_zero k.val
  smul_add k P Q := nsmul_add P Q k.val
  zero_smul P := zero_nsmul P
  add_smul k l P := by
    change (k + l).val • P = k.val • P + l.val • P
    rw [Residue.val_add, mod_nsmul, add_nsmul]

/-- The library's multiple by a scalar is the scalar multiple. -/
@[simp] theorem point_smul (k : Fr) (P : G.Member) : (k • P).point = G.scale k P.point := by
  rw [scale_eq_multiple]
  exact point_nsmul k.val P

end Member

/-- The base as a member. -/
def generator (G : PointGroup F) [G.Lawful] : G.Member := ⟨G.base, Lawful.contains_base⟩

variable {G : PointGroup F} [G.Lawful]

/-- The generator is the base. -/
@[simp] theorem point_generator : G.generator.point = G.base := rfl

/-- The multiples of the generator are those of the base. -/
theorem point_smul_generator (k : Fr) : (k • G.generator).point = G.scale k G.base :=
  Member.point_smul k G.generator

/-- The generator is not the identity. -/
theorem generator_ne_zero : G.generator ≠ 0 := fun h =>
  Lawful.base_ne_none (Member.point_eq_none_iff.mpr h)

/-- Multiples of members are members. -/
theorem contains_scale {P : Point F} (hP : G.contains P = true) (k : Fr) :
    G.contains (G.scale k P) = true := by
  obtain ⟨M, rfl⟩ := Member.exists_point_eq hP
  rw [← Member.point_smul]
  exact Member.contains_point _

/-- Differences of members are members. -/
theorem contains_sub {P Q : Point F} (hP : G.contains P = true) (hQ : G.contains Q = true) :
    G.contains (G.sub P Q) = true :=
  Lawful.contains_add hP (Lawful.contains_neg hQ)

/-- The multiples of the base are members. -/
theorem contains_scale_base (k : Fr) : G.contains (G.scale k G.base) = true :=
  contains_scale Lawful.contains_base k

/-- The multiple by a number's integer is the one by its scalar. -/
theorem mul_toInt (n : Number) (P : G.Member) : G.mul n.toInt P.point = (n.toFr • P).point := by
  cases n with
  | scalar c => exact (Member.point_smul c P).symm
  | int k =>
    rw [Member.point_smul, scale_eq_multiple]
    rfl

/-- Different scalars give different multiples of the base. -/
theorem scale_base_injective : Function.Injective fun k : Fr => G.scale k G.base := by
  intro k l h
  apply smul_left_injective Fr (generator_ne_zero (G := G))
  apply Member.point_injective
  simpa using h

end PointGroup

end PolyCommit
