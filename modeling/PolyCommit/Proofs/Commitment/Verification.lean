import PolyCommit.Proofs.Commitment.Opening
import Mathlib.Tactic.LinearCombination
import Mathlib.Tactic.Ring

/-!
# What verification accepts

Under a key with hidden scalar `a`, the check of a commitment `c·P` against a witness for the point
`z` with value `e·P` and quotient `w·P` compares the exponents of `c` and of `w·(a - z) + e`. An
honest witness makes them equal by the identity of the division; if the pairing is nondegenerate,
the check accepts in no other case.
-/

namespace PolyCommit

namespace Key

/-- A multiple of the first point of a key. -/
def multiple₁ (G : PointGroup Fq) (key : Key) (c : Fr) : Point Fq :=
  G.scale c (key.points₁.headD none)

/-- The multiples of the first power of a ladder are those of its member. -/
theorem IsLadder.multiple₁_eq {T : Type} {E : PairingSystem T} [E.g₁.Lawful] [E.g₂.Lawful]
    {key : Key} {P : E.g₁.Member} {Q : E.g₂.Member} {a : Fr} {size : ℕ}
    (hkey : IsLadder E key P Q a size) (hsize : 1 ≤ size) (c : Fr) :
    key.multiple₁ E.g₁ c = (c • P).point := by
  rw [multiple₁, hkey.headD_points₁ hsize, PointGroup.Member.point_smul]

end Key

namespace PairingSystem

variable {T : Type} [Mul T] [One T] {E : PairingSystem T} [E.g₁.Lawful] [E.g₂.Lawful]

/-- The value of a pairing of multiples of the bases. -/
theorem IsBilinear.pairing_smul (hE : E.IsBilinear) (k l : Fr) :
    E.pairing (k • E.g₂.generator).point (l • E.g₁.generator).point =
      .ok (E.exponent (k * l)) := by
  rw [pairing, hE.pair_smul]

variable [DecidableEq T] {key : Key} {k₁ k₂ a : Fr} {size : ℕ}

/-- The check compares two products of exponents. -/
theorem verify_ladder (hE : E.IsBilinear)
    (hkey : Key.IsLadder E key (k₁ • E.g₁.generator) (k₂ • E.g₂.generator) a size)
    (hsize : 2 ≤ size) (c e w z : Fr) :
    E.verify key (c • k₁ • E.g₁.generator).point
        ⟨z, (e • k₁ • E.g₁.generator).point, (w • k₁ • E.g₁.generator).point⟩ =
      .ok (E.exponent (k₂ * (c * k₁)) =
        E.exponent ((a * k₂ - z * k₂) * (w * k₁)) * E.exponent (k₂ * (e * k₁))) := by
  obtain ⟨m, rfl⟩ : ∃ m, size = m + 2 := ⟨size - 2, by omega⟩
  have hpoints : key.points₂ = (k₂ • E.g₂.generator).point :: (a • k₂ • E.g₂.generator).point ::
      (List.iterate (a • ·) (a • a • k₂ • E.g₂.generator) m).map PointGroup.Member.point :=
    hkey.points₂
  have hshift : E.g₂.sub (a • k₂ • E.g₂.generator).point
      (E.g₂.scale z (k₂ • E.g₂.generator).point) = ((a * k₂ - z * k₂) • E.g₂.generator).point := by
    rw [← PointGroup.Member.point_smul, ← PointGroup.Member.point_sub, sub_smul, mul_smul, mul_smul]
  simp only [verify, hpoints, hshift]
  simp only [← mul_smul, hE.pairing_smul]
  rfl

/-- The check passes if the scalars satisfy the equation that it stands for. -/
theorem verify_ladder_of_eq (hE : E.IsBilinear)
    (hkey : Key.IsLadder E key (k₁ • E.g₁.generator) (k₂ • E.g₂.generator) a size)
    (hsize : 2 ≤ size) {c e w z : Fr} (h : c = w * (a - z) + e) :
    E.verify key (c • k₁ • E.g₁.generator).point
        ⟨z, (e • k₁ • E.g₁.generator).point, (w • k₁ • E.g₁.generator).point⟩ = .ok true := by
  rw [verify_ladder hE hkey hsize, ← hE.exponent_add, decide_eq_true]
  congr 1
  linear_combination k₂ * k₁ * h

/-- The quotient of a polynomial minus its value satisfies it. -/
theorem verify_ladder_quotientAt (hE : E.IsBilinear)
    (hkey : Key.IsLadder E key (k₁ • E.g₁.generator) (k₂ • E.g₂.generator) a size)
    (hsize : 2 ≤ size) {p : Poly} (hp : p ≠ []) (z : Fr) :
    E.verify key (p.eval a • k₁ • E.g₁.generator).point
        ⟨z, (p.eval z • k₁ • E.g₁.generator).point,
          ((p.quotientAt z).eval a • k₁ • E.g₁.generator).point⟩ = .ok true := by
  apply verify_ladder_of_eq hE hkey hsize
  linear_combination -Poly.eval_quotientAt hp z a

/-- Under a nondegenerate pairing it passes in no other case. -/
theorem verify_ladder_eq_decide (hE : E.IsBilinear) (hne : E.IsNondegenerate) (hk₁ : k₁ ≠ 0)
    (hk₂ : k₂ ≠ 0)
    (hkey : Key.IsLadder E key (k₁ • E.g₁.generator) (k₂ • E.g₂.generator) a size)
    (hsize : 2 ≤ size) (c e w z : Fr) :
    E.verify key (c • k₁ • E.g₁.generator).point
        ⟨z, (e • k₁ • E.g₁.generator).point, (w • k₁ • E.g₁.generator).point⟩ =
      .ok (c = w * (a - z) + e) := by
  rw [verify_ladder hE hkey hsize, ← hE.exponent_add]
  refine congrArg Except.ok (decide_eq_decide.mpr ?_)
  have hfactor : k₂ * (c * k₁) - ((a * k₂ - z * k₂) * (w * k₁) + k₂ * (e * k₁)) =
      k₂ * k₁ * (c - (w * (a - z) + e)) := by ring
  rw [(hE.exponent_injective hne).eq_iff, ← sub_eq_zero, hfactor,
    mul_eq_zero_iff_left (mul_ne_zero hk₂ hk₁), sub_eq_zero]

/-! ### Keys from a setup -/

variable {pair : Point Fq2 → Point Fq → Option T} {hash : Bytes → Digest} {seed : Value}
  {draws : Draws} {t : ℕ}

/-- An honest commitment and witness exist for every polynomial, degree and point in range, and the
witness proves its value. -/
theorem verify_openAt (hpair : (Bn254.system pair).IsBilinear) (ht : 1 ≤ t)
    (hkey : (Key.setup (Bn254.system pair) hash (.int t) seed draws).1 = .ok key)
    {xs : List Value} (hxs : ∀ v ∈ xs, v.number?.isSome) {n : ℕ} (hn : 2 ≤ n)
    (hlength : n ≤ xs.length) (hsize : n ≤ t + 1) (z : Fr) :
    ∃ commitment w,
      (Bn254.system pair).commit key (.list xs) (.int n) = .ok commitment ∧
      (Bn254.system pair).openAt key (.list xs) (.scalar z) (.int n) = .ok w ∧
      (Bn254.system pair).verify key commitment w = .ok true := by
  obtain ⟨s, hs⟩ := Key.exists_choose_of_setup ht hkey
  have hladder := Key.isLadder_of_setup ht hs hkey
  obtain ⟨p, hp⟩ := Poly.exists_standFor fun v hv => hxs v (List.mem_of_mem_take hv : v ∈ xs)
  have hne : p ≠ [] := by
    have h := hp.length_eq
    rw [List.length_take, Nat.min_eq_left hlength] at h
    exact List.ne_nil_of_length_pos (by omega)
  refine ⟨_, _, commit_ladder hladder (by omega) hsize hlength hp,
    openAt_ladder hladder hn hsize hlength hp z,
    verify_ladder_quotientAt hpair hladder (by omega) hne z⟩

/-- At the hidden scalar itself the quotient is multiplied by zero, and the check still passes. -/
theorem verify_openAt_hidden : (Secrets.draw [5, 6, 41]).1.hidden = Residue.ofNat 42 ∧
    ∃ key commitment w,
    (Key.setup (Bn254.system (Bn254.logPair Ate.root)) Sha256.hash (.int 2) .null [5, 6, 41]).1 =
      .ok key ∧
    (Bn254.system (Bn254.logPair Ate.root)).commit key (.list [.int 3, .int 1, .int 4]) (.int 3) =
      .ok commitment ∧
    (Bn254.system (Bn254.logPair Ate.root)).openAt key (.list [.int 3, .int 1, .int 4])
      (.scalar (Residue.ofNat 42)) (.int 3) = .ok w ∧
    (Bn254.system (Bn254.logPair Ate.root)).verify key commitment w = .ok true := by
  obtain ⟨key, hkey⟩ : ∃ key, (Key.setup (Bn254.system (Bn254.logPair Ate.root)) Sha256.hash
      (.int 2) .null [5, 6, 41]).1 = .ok key :=
    (Key.exists_setup_iff (E := Bn254.system _) (show 1 ≤ 2 by decide)).mpr (.inl rfl)
  have hnumbers : ∀ v ∈ [Value.int 3, .int 1, .int 4], v.number?.isSome := by simp [Value.number?]
  obtain ⟨commitment, w, h⟩ := verify_openAt (Bn254.logPair_isBilinear Ate.root_pow)
    (show 1 ≤ 2 by decide) hkey hnumbers (n := 3) (by decide) (by decide) (by decide)
    (Residue.ofNat 42)
  exact ⟨by decide, key, commitment, w, hkey, h⟩

/-- The answer for multiples of the first point of a key: the commitment, the value, the quotient
and the point of the witness. -/
def check (E : PairingSystem T) (key : Key) (c e w z : Fr) : Except Failure Bool :=
  E.verify key (key.multiple₁ E.g₁ c) ⟨z, key.multiple₁ E.g₁ e, key.multiple₁ E.g₁ w⟩

/-- Under a key from a setup the answer is that of one equation between scalars. -/
theorem check_eq (hpair : (Bn254.system pair).IsBilinear)
    (hne : (Bn254.system pair).IsNondegenerate) (ht : 1 ≤ t) {s : Secrets}
    (hs : Secrets.choose hash seed draws = .ok s)
    (hkey : (Key.setup (Bn254.system pair) hash (.int t) seed draws).1 = .ok key) (c e w z : Fr) :
    (Bn254.system pair).check key c e w z = .ok (c = w * (s.hidden - z) + e : Bool) := by
  have hladder := Key.isLadder_of_setup ht hs hkey
  have hproper := Secrets.choose_isProper hs
  rw [check, hladder.multiple₁_eq (by omega), hladder.multiple₁_eq (by omega),
    hladder.multiple₁_eq (by omega)]
  exact verify_ladder_eq_decide hpair hne hproper.generator₁ hproper.generator₂ hladder (by omega)
    c e w z

/-- Verification decides one equation between scalars. Where it holds, another commitment or value
is always refused, another quotient unless the point is the hidden scalar, and another point unless
the quotient is the identity. -/
theorem check_spec (hpair : (Bn254.system pair).IsBilinear)
    (hne : (Bn254.system pair).IsNondegenerate) (ht : 1 ≤ t) {s : Secrets}
    (hs : Secrets.choose hash seed draws = .ok s)
    (hkey : (Key.setup (Bn254.system pair) hash (.int t) seed draws).1 = .ok key) :
    (∀ c e w z, (Bn254.system pair).check key c e w z = .ok (c = w * (s.hidden - z) + e : Bool)) ∧
    ∀ c e w z, (Bn254.system pair).check key c e w z = .ok true →
      (∀ c', key.multiple₁ Bn254.group₁ c' ≠ key.multiple₁ Bn254.group₁ c →
        (Bn254.system pair).check key c' e w z = .ok false) ∧
      (∀ e', key.multiple₁ Bn254.group₁ e' ≠ key.multiple₁ Bn254.group₁ e →
        (Bn254.system pair).check key c e' w z = .ok false) ∧
      (∀ w', key.multiple₁ Bn254.group₁ w' ≠ key.multiple₁ Bn254.group₁ w →
        ((Bn254.system pair).check key c e w' z = .ok false ↔ z ≠ s.hidden)) ∧
      (∀ z', z' ≠ z → ((Bn254.system pair).check key c e w z' = .ok false ↔
        key.multiple₁ Bn254.group₁ w ≠ none)) := by
  have hcheck := check_eq hpair hne ht hs hkey
  have hfalse (c e w z : Fr) :
      (Bn254.system pair).check key c e w z = .ok false ↔ c ≠ w * (s.hidden - z) + e := by
    rw [hcheck, Except.ok.injEq, decide_eq_false_iff_not]
  refine ⟨hcheck, fun c e w z haccepted => ?_⟩
  rw [hcheck, Except.ok.injEq, decide_eq_true_eq] at haccepted
  refine ⟨fun c' hc' => ?_, fun e' he' => ?_, fun w' hw' => ?_, fun z' hz' => ?_⟩
  · rw [hfalse, ← haccepted]
    rintro rfl
    exact hc' rfl
  · rw [hfalse, haccepted]
    intro h
    exact he' (by rw [add_left_cancel h])
  · have hw : w' - w ≠ 0 := sub_ne_zero.mpr fun h => hw' (by rw [h])
    have hdiff : c - (w' * (s.hidden - z) + e) = (w' - w) * (z - s.hidden) := by
      linear_combination haccepted
    rw [hfalse, ← sub_ne_zero, hdiff, mul_ne_zero_iff_left hw, sub_ne_zero]
  · have hz : z' - z ≠ 0 := sub_ne_zero.mpr hz'
    have hdiff : c - (w * (s.hidden - z') + e) = w * (z' - z) := by
      linear_combination haccepted
    have hgenerator : s.generator₁ • Bn254.group₁.generator ≠ 0 :=
      smul_ne_zero (Secrets.choose_isProper hs).generator₁ PointGroup.generator_ne_zero
    rw [hfalse, ← sub_ne_zero, hdiff, mul_ne_zero_iff_right hz,
      (Key.isLadder_of_setup ht hs hkey).multiple₁_eq (by omega), Ne, Ne,
      PointGroup.Member.point_eq_none_iff, smul_eq_zero_iff_left hgenerator]

/-- For the hidden scalar `42` the equation is `c = w·(42 - z) + e`: it holds at
`5 = 2·(42 - 40) + 1`, not for another point with that quotient, and for every quotient at the point
`42`. -/
theorem check_spec_drawn : ∃ key,
    (Key.setup (Bn254.system (Bn254.logPair Ate.root)) Sha256.hash (.int 1) .null [5, 6, 41]).1 =
      .ok key ∧
    (Bn254.system (Bn254.logPair Ate.root)).check key 5 1 2 40 = .ok true ∧
    (Bn254.system (Bn254.logPair Ate.root)).check key 5 1 2 41 = .ok false ∧
    (Bn254.system (Bn254.logPair Ate.root)).check key 7 7 3 42 = .ok true := by
  obtain ⟨key, hkey⟩ : ∃ key, (Key.setup (Bn254.system (Bn254.logPair Ate.root)) Sha256.hash
      (.int 1) .null [5, 6, 41]).1 = .ok key :=
    (Key.exists_setup_iff (E := Bn254.system _) le_rfl).mpr (.inl rfl)
  have hcheck := (check_spec (Bn254.logPair_isBilinear Ate.root_pow)
    (Bn254.logPair_isNondegenerate Ate.root_ne_one) le_rfl rfl hkey).1
  exact ⟨key, hkey, (hcheck 5 1 2 40).trans (congrArg Except.ok (by decide +kernel)),
    (hcheck 5 1 2 41).trans (congrArg Except.ok (by decide +kernel)),
    (hcheck 7 7 3 42).trans (congrArg Except.ok (by decide +kernel))⟩

end PairingSystem

end PolyCommit
