import PolyCommit.Field.Residue
import Mathlib.Algebra.Field.ZMod

/-!
# Residues as a ring and as a field

The operations on representatives are those of the integers modulo `n`: the class of a
representative is an injective map into `ZMod n` that respects all of them, and the laws of a
commutative ring come back along it. For a prime modulus the multiplier that the Euclidean algorithm
returns is an inverse, which makes a field with the total convention `0⁻¹ = 0`.

Powers and multiples by repeated doubling are treated once, for any operation that follows a
product.
-/

namespace PolyCommit

/-- Repeated combination follows the powers of a monoid whenever one combination follows one
product. -/
theorem repeated_rel {G : Type} {M : Type*} [Monoid M] {f : G → G → G} {unit : G} {R : G → M → Prop}
    (hunit : R unit 1) (hop : ∀ {x y a b}, R x a → R y b → R (f x y) (a * b)) (k : ℕ) {x : G}
    {a : M} (hx : R x a) : R (repeated f unit k x) (a ^ k) := by
  induction k using Nat.strongRecOn generalizing x a with
  | ind k ih =>
    by_cases hk : k = 0
    · rw [hk, repeated_zero, pow_zero]
      exact hunit
    · have hhalf : R (repeated f unit (k / 2) (f x x)) (a ^ (2 * (k / 2))) := by
        rw [pow_mul, sq]
        exact ih (k / 2) (by omega) (hop hx hx)
      rw [repeated_of_ne_zero f unit x hk]
      split
      · next heven => rwa [show 2 * (k / 2) = k by omega] at hhalf
      · next hodd =>
        rw [show a ^ k = a ^ (2 * (k / 2)) * a by rw [← pow_succ]; congr 1; omega]
        exact hop hhalf hx

/-- Repeated multiplication is the power. -/
theorem repeated_mul {M : Type} [Monoid M] (k : ℕ) (x : M) :
    repeated (· * ·) 1 k x = x ^ k :=
  repeated_rel (R := Eq) rfl (fun hx hy => congrArg₂ _ hx hy) k rfl

namespace Residue

variable {n : ℕ}

/-- The class of a residue among the integers modulo `n`. -/
def toZMod (a : Residue n) : ZMod n := a.val

/-- A class has one representative below the modulus. -/
theorem toZMod_injective : Function.Injective (toZMod : Residue n → ZMod n) := by
  intro a b h
  have hmod := (ZMod.natCast_eq_natCast_iff' a.val b.val n).mp h
  rw [Nat.mod_eq_of_lt a.isLt, Nat.mod_eq_of_lt b.isLt] at hmod
  exact ext hmod

/-- Sums of residues are sums in the ring. -/
@[simp] theorem toZMod_add (a b : Residue n) : (a + b).toZMod = a.toZMod + b.toZMod := by
  rw [toZMod, val_add, ZMod.natCast_mod, Nat.cast_add]
  rfl

/-- Differences of residues are differences in the ring. -/
@[simp] theorem toZMod_sub (a b : Residue n) : (a - b).toZMod = a.toZMod - b.toZMod := by
  rw [toZMod, val_sub, ZMod.natCast_mod, Nat.cast_add, Nat.cast_sub b.isLt.le, ZMod.natCast_self,
    zero_sub, ← sub_eq_add_neg]
  rfl

variable [Modulus n]

/-- The residue of a number is its class. -/
@[simp] theorem toZMod_ofNat (k : ℕ) : (ofNat k : Residue n).toZMod = k := ZMod.natCast_mod k n

/-- Zero is the class of zero. -/
@[simp] theorem toZMod_zero : (0 : Residue n).toZMod = 0 := by
  rw [← Nat.cast_zero]
  exact toZMod_ofNat 0

/-- One is the class of one. -/
@[simp] theorem toZMod_one : (1 : Residue n).toZMod = 1 := by
  rw [← Nat.cast_one]
  exact toZMod_ofNat 1

/-- Products of residues are products in the ring. -/
@[simp] theorem toZMod_mul (a b : Residue n) : (a * b).toZMod = a.toZMod * b.toZMod := by
  rw [toZMod, val_mul, ZMod.natCast_mod, Nat.cast_mul]
  rfl

/-- Opposites of residues are opposites in the ring. -/
@[simp] theorem toZMod_neg (a : Residue n) : (-a).toZMod = -a.toZMod := by
  rw [toZMod, val_neg, ZMod.natCast_mod, Nat.cast_sub a.isLt.le, ZMod.natCast_self, zero_sub]
  rfl

/-- The residue of an integer is its class. -/
@[simp] theorem toZMod_ofInt (k : ℤ) : (ofInt k : Residue n).toZMod = k := by
  have hn : (0 : ℤ) < n := Int.natCast_pos.mpr Modulus.pos
  have hnonneg := Int.emod_nonneg k hn.ne'
  change (((k % n).toNat : ℕ) : ZMod n) = k
  rw [← Int.cast_natCast, Int.toNat_of_nonneg hnonneg, ZMod.intCast_mod]

/-- The laws of a commutative ring, brought back from the integers modulo `n`. -/
instance : CommRing (Residue n) where
  add_assoc a b c := toZMod_injective (by simp only [toZMod_add, add_assoc])
  zero_add a := toZMod_injective (by simp)
  add_zero a := toZMod_injective (by simp)
  add_comm a b := toZMod_injective (by simp only [toZMod_add, add_comm])
  mul_assoc a b c := toZMod_injective (by simp only [toZMod_mul, mul_assoc])
  one_mul a := toZMod_injective (by simp)
  mul_one a := toZMod_injective (by simp)
  mul_comm a b := toZMod_injective (by simp only [toZMod_mul, mul_comm])
  left_distrib a b c := toZMod_injective (by simp only [toZMod_add, toZMod_mul, mul_add])
  right_distrib a b c := toZMod_injective (by simp only [toZMod_add, toZMod_mul, add_mul])
  zero_mul a := toZMod_injective (by simp)
  mul_zero a := toZMod_injective (by simp)
  neg_add_cancel a := toZMod_injective (by simp)
  sub_eq_add_neg a b := toZMod_injective (by simp [sub_eq_add_neg])
  nsmul := nsmulRec
  zsmul := zsmulRec
  natCast := ofNat
  natCast_zero := rfl
  natCast_succ k := toZMod_injective (by simp)

/-- Every class has a representative. -/
theorem toZMod_surjective : Function.Surjective (toZMod : Residue n → ZMod n) := by
  have : NeZero n := ⟨Modulus.pos.ne'⟩
  intro z
  exact ⟨ofNat z.val, by rw [toZMod_ofNat, ZMod.natCast_zmod_val]⟩

/-- There are as many residues as the modulus says. -/
theorem card_eq : Nat.card (Residue n) = n :=
  (Nat.card_congr (Equiv.ofBijective toZMod ⟨toZMod_injective, toZMod_surjective⟩)).trans
    (Nat.card_zmod n)

instance : Finite (Residue n) := Nat.finite_of_card_ne_zero (card_eq.trans_ne Modulus.pos.ne')

/-- The power by repeated squaring is the power of the ring. -/
@[simp] theorem pow_eq (a : Residue n) (k : ℕ) : a.pow k = a ^ k := repeated_mul k a

omit [Modulus n] in
/-- What the Euclidean algorithm keeps: a multiplier that takes `x` to each of the two numbers goes
in, and one that takes `x` to their greatest common divisor comes out. -/
theorem bezout_mul {x : ZMod n} (a b : ℕ) (u v : ℤ) (hu : (u : ZMod n) * x = a)
    (hv : (v : ZMod n) * x = b) : (bezout a b u v : ZMod n) * x = (a.gcd b : ℕ) := by
  induction b using Nat.strongRecOn generalizing a u v with
  | ind b ih =>
    rw [bezout]
    split
    · next h => rw [h, Nat.gcd_zero_right, hu]
    · next h =>
      have hrest : ((u - (a / b : ℕ) * v : ℤ) : ZMod n) * x = (a % b : ℕ) := by
        have hdiv : (a : ZMod n) = (b : ZMod n) * (a / b : ℕ) + (a % b : ℕ) := by
          rw [← Nat.cast_mul, ← Nat.cast_add, Nat.div_add_mod]
        rw [Int.cast_sub, Int.cast_mul, Int.cast_natCast, sub_mul, mul_assoc, hu, hv, hdiv,
          mul_comm, add_sub_cancel_left]
      change (bezout b (a % b) v (u - (a / b : ℕ) * v) : ZMod n) * x = _
      rw [ih (a % b) (Nat.mod_lt a (Nat.pos_of_ne_zero h)) b v _ hv hrest, Nat.gcd_comm b,
        Nat.gcd_comm a, Nat.gcd_rec b a]

/-- The inverse of a residue takes it to its greatest common divisor with the modulus. -/
theorem toZMod_inv_mul (a : Residue n) : a.inv.toZMod * a.toZMod = (a.val.gcd n : ℕ) := by
  rw [inv, toZMod_ofInt]
  exact bezout_mul a.val n 1 0 (by simp [toZMod]) (by simp)

variable [Fact n.Prime]

/-- Modulo a prime, every residue but zero has an inverse. -/
theorem mul_inv_eq_one {a : Residue n} (ha : a ≠ 0) : a * a.inv = 1 := by
  have hval : a.val ≠ 0 := fun h => ha (ext (h.trans val_zero.symm))
  have hgcd : a.val.gcd n = 1 := by
    rw [Nat.gcd_comm]
    exact (Fact.out : n.Prime).coprime_iff_not_dvd.mpr
      (Nat.not_dvd_of_pos_of_lt (Nat.pos_of_ne_zero hval) a.isLt)
  apply toZMod_injective
  rw [mul_comm, toZMod_mul, toZMod_inv_mul, hgcd, Nat.cast_one, toZMod_one]

/-- Modulo a prime the residues are a field; the quotient is the library's own. -/
instance : Field (Residue n) where
  inv := inv
  exists_pair_ne := ⟨0, 1, fun h => by
    have hval := congrArg val h
    change 0 % n = 1 % n at hval
    rw [Nat.zero_mod, Nat.mod_eq_of_lt (Fact.out : n.Prime).one_lt] at hval
    exact absurd hval zero_ne_one⟩
  mul_inv_cancel _ := mul_inv_eq_one
  inv_zero := inv_zero
  nnqsmul := _
  nnqsmul_def _ _ := rfl
  qsmul := _
  qsmul_def _ _ := rfl

end Residue

end PolyCommit
