import PolyCommit.Field.Bn254
import PolyCommit.Proofs.Field.Residue
import Mathlib.Data.List.Prime
import Mathlib.Data.Nat.Prime.Basic
import Mathlib.NumberTheory.LucasPrimality
import Mathlib.Tactic.NormNum.Prime

/-!
# The two moduli are prime

A number `n` is prime if some base has order `n - 1` modulo it, and the order can be read off the
prime factors of `n - 1`. A table lists such bases and factors for the two moduli of the library and
for the large primes that occur on the way. The test of a line is evaluated by the kernel.
-/

namespace PolyCommit

namespace Primality

/-- `aᵏ` modulo `n`, reduced after every product. -/
def powMod (n a k : ℕ) : ℕ := repeated (fun x y => x * y % n) 1 k a

/-- The power modulo a number is the power in the ring of residues. -/
theorem powMod_cast (n a k : ℕ) : (powMod n a k : ZMod n) = (a : ZMod n) ^ k :=
  repeated_rel (f := fun x y => x * y % n) (R := fun (x : ℕ) (z : ZMod n) => (x : ZMod n) = z)
    Nat.cast_one (fun hx hy => by rw [ZMod.natCast_mod, Nat.cast_mul, hx, hy]) k rfl

/-- A power is one exactly when its reduced form leaves the remainder one. -/
theorem pow_eq_one_iff {n : ℕ} (hn : 1 < n) (a k : ℕ) :
    (a : ZMod n) ^ k = 1 ↔ powMod n a k % n = 1 := by
  rw [← powMod_cast, ← Nat.cast_one, ZMod.natCast_eq_natCast_iff', Nat.one_mod_eq_one.mpr hn.ne']

/-- A number, a base of order one less modulo it, and the primes whose product is one less. -/
structure Line where
  number : ℕ
  base : ℕ
  factors : List ℕ

/-- Whether a line shows its number prime, given the numbers that were shown prime before it. -/
def Line.follows (known : List ℕ) (l : Line) : Bool :=
  1 < l.number && l.factors.prod = l.number - 1
    && l.factors.all (known.contains ·)
    && powMod l.number l.base (l.number - 1) % l.number = 1
    && l.factors.all fun q => powMod l.number l.base ((l.number - 1) / q) % l.number ≠ 1

/-- A line that follows from primes has a prime number. -/
theorem Line.prime_of_follows {known : List ℕ} (hknown : ∀ q ∈ known, q.Prime) {l : Line}
    (h : l.follows known = true) : l.number.Prime := by
  simp only [follows, Bool.and_eq_true, decide_eq_true_eq, List.all_eq_true,
    List.contains_iff_mem] at h
  obtain ⟨⟨⟨⟨hone, hprod⟩, hfactors⟩, hfull⟩, hpart⟩ := h
  refine lucas_primality l.number l.base ((pow_eq_one_iff hone _ _).mpr hfull) ?_
  intro q hq hdvd hpow
  have hmem : q ∈ l.factors := by
    exact mem_list_primes_of_dvd_prod hq.prime (fun s hs => (hknown s (hfactors s hs)).prime)
      (hprod ▸ hdvd)
  exact hpart q hmem ((pow_eq_one_iff hone _ _).mp hpow)

/-- Whether every line of a table follows from the lines before it. -/
def allFollow (known : List ℕ) : List Line → Bool
  | [] => true
  | l :: rest => l.follows known && allFollow (l.number :: known) rest

/-- A table in which every line follows lists primes. -/
theorem prime_of_allFollow {known : List ℕ} (hknown : ∀ q ∈ known, q.Prime) {lines : List Line}
    (h : allFollow known lines = true) : ∀ l ∈ lines, l.number.Prime := by
  induction lines generalizing known with
  | nil => exact fun l hl => absurd hl List.not_mem_nil
  | cons l rest ih =>
    rw [allFollow, Bool.and_eq_true] at h
    have hl := l.prime_of_follows hknown h.1
    exact List.forall_mem_cons.mpr ⟨hl, ih (List.forall_mem_cons.mpr ⟨hl, hknown⟩) h.2⟩

/-- The small primes among the factors. -/
def small : List ℕ := [
  2, 3, 5, 7, 11, 13, 17, 19, 29, 37, 41, 67, 73, 83, 89, 107, 109, 229, 233, 271, 311, 379,
  449, 661, 823, 853, 911, 983, 1231, 1637, 3557, 3691, 4999, 11003, 13327, 20963, 93001]

/-- The small numbers are primes. -/
theorem prime_of_mem_small : ∀ q ∈ small, q.Prime := by
  simp only [small, List.forall_mem_cons]
  norm_num

/-- The lines for the two moduli, with the lines for their large factors before them. -/
def table : List Line := [
  ⟨405928799, 22, [2, 11, 3691, 4999]⟩,
  ⟨12048837557, 2, [2, 2, 7, 7, 661, 93001]⟩,
  ⟨5156902474397, 2, [2, 2, 107, 12048837557]⟩,
  ⟨1670836401704629, 2, [2, 2, 3, 3, 3, 3, 5156902474397]⟩,
  ⟨639533339, 2, [2, 229, 853, 1637]⟩,
  ⟨65865678001877903, 5, [2, 83, 379, 1637, 639533339]⟩,
  ⟨41927, 5, [2, 20963]⟩,
  ⟨1593227, 2, [2, 19, 41927]⟩,
  ⟨13818364434197438864469338081, 3,
    [2, 2, 2, 2, 2, 5, 823, 1593227, 65865678001877903]⟩,
  ⟨237073, 15, [2, 2, 2, 2, 3, 11, 449]⟩,
  ⟨groupOrder, 5, List.replicate 28 2 ++ [3, 3, 13, 29, 983, 11003, 237073, 405928799,
    1670836401704629, 13818364434197438864469338081]⟩,
  ⟨327599, 19, [2, 19, 37, 233]⟩,
  ⟨11465965001, 3, [2, 2, 2, 5, 5, 5, 5, 7, 327599]⟩,
  ⟨173171039, 13, [2, 73, 89, 13327]⟩,
  ⟨1263766531, 10, [2, 3, 5, 13, 911, 3557]⟩,
  ⟨35385462869, 2, [2, 2, 7, 1263766531]⟩,
  ⟨2480874801745591, 6, [2, 3, 3, 5, 19, 41, 35385462869]⟩,
  ⟨1853641, 17, [2, 2, 2, 3, 3, 5, 19, 271]⟩,
  ⟨4562087, 5, [2, 17, 109, 1231]⟩,
  ⟨13427688667394608761327070753331941386769, 17,
    [2, 2, 2, 2, 3, 7, 11, 1853641, 4562087, 173171039, 2480874801745591]⟩,
  ⟨fieldModulus, 3, [2, 3, 3, 13, 29, 67, 229, 311, 983, 11003, 405928799, 11465965001,
    13427688667394608761327070753331941386769]⟩]

/-- Every line of the table follows from those before it. -/
theorem table_allFollow : allFollow small table = true := by decide +kernel

end Primality

instance groupOrder_prime : Fact groupOrder.Prime :=
  ⟨Primality.prime_of_allFollow Primality.prime_of_mem_small Primality.table_allFollow
    Primality.table[10] (List.getElem_mem _)⟩

instance fieldModulus_prime : Fact fieldModulus.Prime :=
  ⟨Primality.prime_of_allFollow Primality.prime_of_mem_small Primality.table_allFollow
    Primality.table[20] (List.getElem_mem _)⟩

end PolyCommit
