import PolyCommit.Field.Repeated

/-!
# Residues

The integers modulo `n`, each held as its representative below `n`. Sums, differences and products
reduce at once. The inverse comes from the Euclidean algorithm and is total: zero has inverse zero,
so a quotient by zero is zero.
-/

namespace PolyCommit

/-- A number that residues can be taken of. -/
class Modulus (n : Nat) : Prop where
  pos : 0 < n

/-- A residue class modulo `n`, held as its representative below `n`. -/
structure Residue (n : Nat) where
  val : Nat
  isLt : val < n
  deriving DecidableEq

namespace Residue

variable {n : Nat}

/-- Two residues with the same representative are equal. -/
@[ext] theorem ext {a b : Residue n} (h : a.val = b.val) : a = b := by
  cases a; cases b; cases h; rfl

/-- The Euclidean algorithm on `a` and `b`, carrying the multiplier of each; the answer is the
multiplier of their greatest common divisor. -/
def bezout (a b : Nat) (u v : Int) : Int :=
  if h : b = 0 then u
  else
    have : a % b < b := Nat.mod_lt a (Nat.pos_of_ne_zero h)
    bezout b (a % b) v (u - (a / b : Nat) * v)
termination_by b

variable [Modulus n]

/-- The class of a natural number. -/
def ofNat (k : Nat) : Residue n := ⟨k % n, Nat.mod_lt k (Modulus.pos)⟩

/-- The class of an integer. -/
def ofInt (k : Int) : Residue n :=
  ⟨(k % n).toNat, by
    have hn : 0 < n := Modulus.pos
    have := Int.emod_lt_of_pos k (Int.natCast_pos.mpr hn)
    have := Int.emod_nonneg k (Int.natCast_ne_zero.mpr (Nat.ne_of_gt hn))
    omega⟩

instance : Zero (Residue n) := ⟨ofNat 0⟩
instance : One (Residue n) := ⟨ofNat 1⟩
instance : Inhabited (Residue n) := ⟨0⟩
instance : Add (Residue n) := ⟨fun a b =>
  let s := a.val + b.val
  if h : s < n then ⟨s, h⟩ else ⟨s - n, by have := a.isLt; have := b.isLt; omega⟩⟩
instance : Neg (Residue n) := ⟨fun a => ofNat (n - a.val)⟩
instance : Sub (Residue n) := ⟨fun a b =>
  if h : b.val ≤ a.val then ⟨a.val - b.val, by have := a.isLt; omega⟩
  else ⟨a.val + n - b.val, by have := a.isLt; omega⟩⟩
instance : Mul (Residue n) := ⟨fun a b => ofNat (a.val * b.val)⟩

/-- `a·b + c·d`, reduced once. -/
def sumOfProducts (a b c d : Residue n) : Residue n := ofNat (a.val * b.val + c.val * d.val)

/-- The inverse of a class prime to `n`, and zero for zero. -/
def inv (a : Residue n) : Residue n := ofInt (bezout a.val n 1 0)

instance : Div (Residue n) := ⟨fun a b => a * b.inv⟩

/-- The `k`-th power. -/
def pow (a : Residue n) (k : Nat) : Residue n := repeated (· * ·) 1 k a

/-- The representative of the residue of a number is its remainder. -/
@[simp] theorem val_ofNat (k : Nat) : (ofNat k : Residue n).val = k % n := rfl

/-- Zero represents zero. -/
@[simp] theorem val_zero : (0 : Residue n).val = 0 := Nat.zero_mod n

omit [Modulus n] in
/-- Sums are taken of the representatives. -/
theorem val_add (a b : Residue n) : (a + b).val = (a.val + b.val) % n := by
  change (if h : a.val + b.val < n then (⟨_, h⟩ : Residue n) else _).val = _
  have := a.isLt
  have := b.isLt
  split
  next h => exact (Nat.mod_eq_of_lt h).symm
  next h =>
    rw [Nat.mod_eq_sub_mod (by omega), Nat.mod_eq_of_lt (by omega)]

omit [Modulus n] in
/-- Differences are taken of the representatives, without going below zero. -/
theorem val_sub (a b : Residue n) : (a - b).val = (a.val + (n - b.val)) % n := by
  change (if h : b.val ≤ a.val then (⟨a.val - b.val, _⟩ : Residue n) else _).val = _
  have := a.isLt
  have := b.isLt
  split
  next h =>
    rw [Nat.mod_eq_sub_mod (by omega), Nat.mod_eq_of_lt (by omega)]
    show a.val - b.val = _
    omega
  next h =>
    rw [Nat.mod_eq_of_lt (by omega)]
    show a.val + n - b.val = _
    omega

/-- Products are taken of the representatives. -/
theorem val_mul (a b : Residue n) : (a * b).val = (a.val * b.val) % n := rfl

/-- The opposite is taken of the representative. -/
theorem val_neg (a : Residue n) : (-a).val = (n - a.val) % n := rfl

/-- Reducing once or at every step gives the same class. -/
theorem sumOfProducts_eq (a b c d : Residue n) : sumOfProducts a b c d = a * b + c * d := by
  apply ext
  rw [val_add, val_mul, val_mul, ← Nat.add_mod]
  rfl

/-- A representative is its own class. -/
@[simp] theorem ofNat_val (a : Residue n) : ofNat a.val = a :=
  ext (Nat.mod_eq_of_lt a.isLt)

/-- Zero is its own inverse under the total convention. -/
theorem inv_zero : (0 : Residue n).inv = 0 := by
  have hn : n ≠ 0 := Nat.ne_of_gt Modulus.pos
  have : bezout (0 : Residue n).val n 1 0 = 0 := by
    rw [val_zero, bezout, dif_neg hn, bezout]
    simp
  rw [inv, this]
  exact ext (by simp [ofInt])

end Residue

end PolyCommit
