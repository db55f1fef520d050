import PolyCommit.Proofs.Commitment.Verification

/-!
# What a commitment determines

Under a key from a setup a commitment is the value of the polynomial at the hidden scalar, as a
multiple of the key's first point. That point generates a group of prime order, so the commitment
determines the value and nothing more: two commitments agree exactly when the values do, whatever
the lengths of the polynomials, and the commitment is the identity exactly when the hidden scalar is
a root.
-/

namespace PolyCommit

/-- Whether a key has a commitment to the polynomial of the first `n` of some numbers. -/
structure Key.Admits (key : Key) (xs : List Value) (n : ℕ) : Prop where
  isNumber : ∀ v ∈ xs, v.number?.isSome
  one_le : 1 ≤ n
  le_length : n ≤ xs.length
  le_size : n ≤ key.size₁

namespace PairingSystem

section Ladder

variable {T : Type} {E : PairingSystem T} [E.g₁.Lawful] [E.g₂.Lawful] {key : Key}
  {P : E.g₁.Member} {Q : E.g₂.Member} {a : Fr} {size : ℕ} {xs ys : List Value} {n m : ℕ}

/-- Committing takes the value at the hidden scalar into the exponent. -/
theorem exists_commit_eq_evaluate (hkey : Key.IsLadder E key P Q a size) (hxs : key.Admits xs n) :
    ∃ y, Poly.evaluate (.list xs) (.scalar a) (.int n) = .ok y ∧
      E.commit key (.list xs) (.int n) = .ok (y • P).point := by
  obtain ⟨p, hp⟩ := Poly.exists_standFor fun v hv =>
    hxs.isNumber v (List.mem_of_mem_take hv : v ∈ xs)
  have hsize : n ≤ size := hxs.le_size.trans_eq hkey.size₁_eq
  exact ⟨p.eval a, Poly.evaluate_list hxs.le_length hp a,
    commit_ladder hkey hxs.one_le hsize hxs.le_length hp⟩

/-- Commitments agree exactly when the values at the hidden scalar do. -/
theorem commit_eq_commit_iff (hkey : Key.IsLadder E key P Q a size) (hP : P ≠ 0)
    (hxs : key.Admits xs n) (hys : key.Admits ys m) :
    E.commit key (.list xs) (.int n) = E.commit key (.list ys) (.int m) ↔
      Poly.evaluate (.list xs) (.scalar a) (.int n) =
        Poly.evaluate (.list ys) (.scalar a) (.int m) := by
  obtain ⟨y, hy, hcommit⟩ := exists_commit_eq_evaluate hkey hxs
  obtain ⟨y', hy', hcommit'⟩ := exists_commit_eq_evaluate hkey hys
  rw [hy, hy', hcommit, hcommit', Except.ok.injEq, Except.ok.injEq,
    PointGroup.Member.point_injective.eq_iff, (smul_left_injective Fr hP).eq_iff]

/-- The commitment is the identity exactly when the hidden scalar is a root. -/
theorem commit_eq_none_iff (hkey : Key.IsLadder E key P Q a size) (hP : P ≠ 0)
    (hxs : key.Admits xs n) :
    E.commit key (.list xs) (.int n) = .ok none ↔
      Poly.evaluate (.list xs) (.scalar a) (.int n) = .ok 0 := by
  obtain ⟨y, hy, hcommit⟩ := exists_commit_eq_evaluate hkey hxs
  rw [hy, hcommit, Except.ok.injEq, Except.ok.injEq, PointGroup.Member.point_eq_none_iff,
    smul_eq_zero_iff_left hP]

end Ladder

variable {hash : Bytes → Digest} {seed : Value} {draws : Draws} {t : ℕ} {key : Key}

/-- Under a key from a setup the commitment is the multiple of the key's first point by the value at
the hidden scalar, and it determines that value. -/
theorem commit_spec (ht : 1 ≤ t) {s : Secrets} (hs : Secrets.choose hash seed draws = .ok s)
    (hkey : (Key.setup bn254 hash (.int t) seed draws).1 = .ok key) :
    (∀ xs n, key.Admits xs n → ∃ y,
      Poly.evaluate (.list xs) (.scalar s.hidden) (.int n) = .ok y ∧
      bn254.commit key (.list xs) (.int n) = .ok (key.multiple₁ Bn254.group₁ y)) ∧
    (∀ xs n ys m, key.Admits xs n → key.Admits ys m →
      (bn254.commit key (.list xs) (.int n) = bn254.commit key (.list ys) (.int m) ↔
        Poly.evaluate (.list xs) (.scalar s.hidden) (.int n) =
          Poly.evaluate (.list ys) (.scalar s.hidden) (.int m))) ∧
    ∀ xs n, key.Admits xs n →
      (bn254.commit key (.list xs) (.int n) = .ok none ↔
        Poly.evaluate (.list xs) (.scalar s.hidden) (.int n) = .ok 0) := by
  have hladder := Key.isLadder_of_setup ht hs hkey
  have hfirst : s.generator₁ • bn254.g₁.generator ≠ 0 :=
    smul_ne_zero (Secrets.choose_isProper hs).generator₁ PointGroup.generator_ne_zero
  refine ⟨fun xs n hxs => ?_, fun xs n ys m => commit_eq_commit_iff hladder hfirst,
    fun xs n => commit_eq_none_iff hladder hfirst⟩
  obtain ⟨y, hy, hcommit⟩ := exists_commit_eq_evaluate hladder hxs
  exact ⟨y, hy, hcommit.trans (congrArg Except.ok (hladder.multiple₁_eq (by omega) y).symm)⟩

/-- Under the hidden scalar `42` the polynomial `3x² + x + 4` has the commitment of the constant
`5338` and not that of `5339`, and `x - 42` has the identity. -/
theorem commit_spec_drawn : ∃ key,
    (Key.setup bn254 Sha256.hash (.int 2) .null [5, 6, 41]).1 = .ok key ∧
    bn254.commit key (.list [.int 3, .int 1, .int 4]) (.int 3) =
      bn254.commit key (.list [.int 5338]) (.int 1) ∧
    bn254.commit key (.list [.int 3, .int 1, .int 4]) (.int 3) ≠
      bn254.commit key (.list [.int 5339]) (.int 1) ∧
    bn254.commit key (.list [.int 1, .int (-42)]) (.int 2) = .ok none := by
  obtain ⟨key, hkey⟩ : ∃ key, (Key.setup bn254 Sha256.hash (.int 2) .null [5, 6, 41]).1 = .ok key :=
    (Key.exists_setup_iff (show 1 ≤ 2 by decide)).mpr (.inl rfl)
  have hsize : key.size₁ = 3 := (Key.isLadder_of_setup (show 1 ≤ 2 by decide) rfl hkey).size₁_eq
  have hadmits (ks : List ℤ) (h : 1 ≤ ks.length) (hle : ks.length ≤ 3) :
      key.Admits (ks.map .int) ks.length :=
    ⟨List.forall_mem_map.mpr fun _ _ => rfl, h, (List.length_map _).ge, hle.trans hsize.ge⟩
  obtain ⟨-, heq, hroot⟩ := commit_spec (show 1 ≤ 2 by decide) rfl hkey
  have hpoly := hadmits [3, 1, 4] (by decide) (by decide)
  refine ⟨key, hkey, ?_, ?_, ?_⟩
  · exact (heq _ _ _ _ hpoly (hadmits [5338] (by decide) (by decide))).mpr rfl
  · intro h
    have hvalues := (heq _ _ _ _ hpoly (hadmits [5339] (by decide) (by decide))).mp h
    have hscalars : (5338 : Fr) = 5339 := Except.ok.inj hvalues
    exact absurd hscalars (by decide)
  · exact (hroot _ _ (hadmits [1, -42] (by decide) (by decide))).mpr rfl

end PairingSystem

end PolyCommit
