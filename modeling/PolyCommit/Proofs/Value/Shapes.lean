import PolyCommit.Proofs.Curve.Bn254
import PolyCommit.Proofs.Value.Points

/-!
# Which values are read as points

A coordinate is an integer or a text of decimal digits, within the range of its field. A point of
the first group is a list of exactly two coordinates. A point of the second group is a list of
exactly two pairs of coordinates, but a pair need not be a list: a text of two digits and an object
of two names are taken apart into two entries as well. The outer list cannot be replaced in this
way, because its coordinates would have one digit each and no such point is on the twist.
-/

namespace PolyCommit

namespace Bn254

/-! ### Points with small coordinates -/

/-- The equation of the twist, without its quotient. -/
theorem xi_mul_twistB : Fq2.xi * twistB = Fq2.ofFq (Residue.ofNat 3) := by
  decide +kernel

/-- On the twist, three more than a multiple of eighty-two vanishes. -/
theorem toZMod_of_onCurve {P : Affine Fq2} (h : P.onCurve twistB = true) :
    82 * (2 * P.y.c0.toZMod * P.y.c1.toZMod - 3 * P.x.c0.toZMod ^ 2 * P.x.c1.toZMod +
      P.x.c1.toZMod ^ 3) + 3 = 0 := by
  have hxi : Fq2.xi * (P.y * P.y - P.x * P.x * P.x) = Fq2.ofFq (Residue.ofNat 3) := by
    rw [of_decide_eq_true h, xi_mul_twistB]
  have hc0 := congrArg (fun z : Fq2 => z.c0.toZMod) hxi
  have hc1 := congrArg (fun z : Fq2 => z.c1.toZMod) hxi
  simp only [Fq2.xi, Fq2.ofFq, Fq2.c0_mul, Fq2.c1_mul, Fq2.c0_sub, Fq2.c1_sub, Residue.toZMod_add,
    Residue.toZMod_sub, Residue.toZMod_mul, Residue.toZMod_neg, Residue.toZMod_ofNat,
    Residue.toZMod_zero, Residue.toZMod_one, Nat.cast_ofNat] at hc0 hc1
  linear_combination 9 * hc1 - hc0

/-- A point of the twist has a coordinate of more than one digit. -/
theorem not_onCurve_of_le_nine {P : Affine Fq2} (hx0 : P.x.c0.val ≤ 9) (hx1 : P.x.c1.val ≤ 9)
    (hy0 : P.y.c0.val ≤ 9) (hy1 : P.y.c1.val ≤ 9) : ¬P.onCurve twistB = true := by
  intro h
  have hequation := toZMod_of_onCurve h
  unfold Residue.toZMod at hequation
  generalize P.x.c0.val = a at *
  generalize P.x.c1.val = b at *
  generalize P.y.c0.val = c at *
  generalize P.y.c1.val = d at *
  have hdvd : (fieldModulus : ℤ) ∣
      82 * (2 * (c * d : ℕ) - 3 * (a ^ 2 * b : ℕ) + (b ^ 3 : ℕ)) + 3 := by
    rw [← ZMod.intCast_zmod_eq_zero_iff_dvd]
    push_cast
    linear_combination hequation
  have hcd : c * d ≤ 9 * 9 := Nat.mul_le_mul hy0 hy1
  have hab : a ^ 2 * b ≤ 9 ^ 2 * 9 := Nat.mul_le_mul (Nat.pow_le_pow_left hx0 2) hx1
  have hb : b ^ 3 ≤ 9 ^ 3 := Nat.pow_le_pow_left hx1 3
  generalize c * d = u at *
  generalize a ^ 2 * b = v at *
  generalize b ^ 3 = w at *
  -- The multiple of the modulus is too small to be any but zero, and eighty-two does not divide
  -- three.
  have hlarge : (1000000 : ℤ) ≤ fieldModulus := by decide
  have hzero := Int.eq_zero_of_abs_lt_dvd hdvd
    ((abs_lt.mpr ⟨by omega, by omega⟩ : |_| < (1000000 : ℤ)).trans_le hlarge)
  omega

/-- The base of the second group is in it. -/
theorem inSubgroup₂_base₂ : inSubgroup₂ (some base₂) = true := by decide +kernel

end Bn254

namespace Value

/-! ### Numerals -/

/-- Whether a value is a natural number or a text that spells it in decimal digits. -/
inductive Spells : Value → ℕ → Prop
  | integer (k : ℕ) : Spells (int k) k
  | digits {s : Text} {ds : List ℕ} (mapM_digit? : s.mapM CodePoint.digit? = some ds)
      (ne_nil : s ≠ []) (length_le : s.length ≤ Text.digitLimit) :
      Spells (str s) (Text.ofDigits ds)

/-- A natural number is read from the values that spell it. -/
theorem toDecimal_natCast_iff {v : Value} {k : ℕ} : toDecimal v = .ok k ↔ Spells v k := by
  constructor
  · intro h
    unfold toDecimal at h
    split at h
    · rw [Except.ok.inj h]
      exact .integer k
    · split at h
      · next s n hs =>
        obtain ⟨ds, hdigits, hne, hlength, rfl⟩ := Text.decimal_eq_number_iff.mp hs
        rw [← Int.ofNat.inj (Except.ok.inj h)]
        exact .digits hdigits hne hlength
      · cases h
      · cases h
    · cases h
  · intro h
    cases h with
    | integer => rfl
    | digits hdigits hne hlength =>
      rw [toDecimal, Text.decimal_eq_number_iff.mpr ⟨_, hdigits, hne, hlength, rfl⟩]

/-- A residue is read from the values that spell its representative. -/
theorem toResidue_eq_ok_iff {n : ℕ} {refusal : Malformed} {v : Value} {x : Residue n} :
    toResidue n refusal v = .ok x ↔ Spells v x.val := by
  rw [← toDecimal_natCast_iff, toResidue, bind_eq_ok_iff]
  constructor
  · rintro ⟨k, hk, h⟩
    split at h
    · split at h
      · next hnonneg =>
        rw [hk, ← Except.ok.inj h, Int.toNat_of_nonneg hnonneg]
      · cases h
    · cases h
  · intro h
    refine ⟨x.val, h, ?_⟩
    simp only [Int.toNat_natCast, x.isLt, Int.natCast_nonneg, dite_true, if_true]

/-- The written form of a coordinate spells it. -/
theorem spells_ofNat_val (x : Fq) : Spells (ofNat x.val) x.val :=
  toDecimal_natCast_iff.mp (toDecimal_ofNat (x.isLt.trans_le fieldModulus_le_pow))

/-- A single code point spells a number of one digit. -/
theorem Spells.le_nine {c : CodePoint} {k : ℕ} (h : Spells (str [c]) k) : k ≤ 9 := by
  cases h with
  | digits hdigits =>
    rw [List.mapM_cons] at hdigits
    obtain ⟨d, hd, hdigits⟩ := Option.bind_eq_some_iff.mp hdigits
    rw [← Option.some.inj hdigits]
    exact (Nat.zero_add d).trans_le (CodePoint.digit?_le hd)

/-! ### Pairs -/

/-- A list of two entries. -/
inductive IsPair : Value → Value → Value → Prop
  | entries (a b : Value) : IsPair (list [a, b]) a b

/-- Anything with two entries: a list, a text by its code points, an object by its names. -/
inductive Unpacks : Value → Value → Value → Prop
  | entries (a b : Value) : Unpacks (list [a, b]) a b
  | codePoints (c d : CodePoint) : Unpacks (str [c, d]) (str [c]) (str [d])
  | names (m n : Text) (v w : Value) : Unpacks (object [(m, v), (n, w)]) (str m) (str n)

/-- A pair can be taken apart. -/
theorem IsPair.unpacks {v a b : Value} (h : IsPair v a b) : Unpacks v a b := by
  cases h
  exact .entries a b

/-- Two entries are found in what can be taken apart. -/
theorem twoEntries?_eq_some_iff {v a b : Value} :
    v.twoEntries? = some (a, b) ↔ Unpacks v a b := by
  constructor
  · intro h
    unfold twoEntries? at h
    split at h
    · next x y hentries =>
      cases h
      unfold entries? at hentries
      split at hentries
      · next s =>
        obtain ⟨c, s, rfl, rfl, hs⟩ := List.map_eq_cons_iff.mp (Option.some.inj hentries)
        obtain ⟨d, rfl, rfl⟩ := List.map_eq_singleton_iff.mp hs
        exact .codePoints c d
      · rw [Option.some.inj hentries]
        exact .entries a b
      · next fields =>
        obtain ⟨f, fs, rfl, rfl, hs⟩ := List.map_eq_cons_iff.mp (Option.some.inj hentries)
        obtain ⟨g, rfl, rfl⟩ := List.map_eq_singleton_iff.mp hs
        exact .names f.1 g.1 f.2 g.2
      · cases hentries
    · cases h
  · intro h
    cases h <;> rfl

/-- Four coordinates are found where both entries can be taken apart in turn. -/
theorem fourEntries?_eq_some_iff {v a0 a1 b0 b1 : Value} :
    v.fourEntries? = some (a0, a1, b0, b1) ↔
      ∃ a b, Unpacks v a b ∧ Unpacks a a0 a1 ∧ Unpacks b b0 b1 := by
  simp only [← twoEntries?_eq_some_iff]
  constructor
  · intro h
    obtain ⟨⟨a, b⟩, hv, h⟩ := Option.bind_eq_some_iff.mp h
    obtain ⟨⟨a0, a1⟩, ha, h⟩ := Option.bind_eq_some_iff.mp h
    obtain ⟨⟨b0, b1⟩, hb, h⟩ := Option.bind_eq_some_iff.mp h
    cases h
    exact ⟨a, b, hv, ha, hb⟩
  · rintro ⟨a, b, hv, ha, hb⟩
    rw [fourEntries?, hv]
    change (a.twoEntries?.bind _) = _
    rw [ha]
    change (b.twoEntries?.bind _) = _
    rw [hb]
    rfl

/-! ### Points -/

/-- The values of the points of the first group: null, or a list of the two coordinates of a point
on the curve. -/
inductive IsPoint₁ : Value → Point Fq → Prop
  | identity : IsPoint₁ null none
  | affine {a b : Value} {x y : Fq} (hx : Spells a x.val) (hy : Spells b y.val)
      (onCurve : Bn254.onCurve₁ (some ⟨x, y⟩) = true) : IsPoint₁ (list [a, b]) (some ⟨x, y⟩)

/-- The values of the points of the second group: null, or a list of the two coordinates of a point
in the subgroup, where each is a pair in the given sense. -/
inductive IsPoint₂ (pair : Value → Value → Value → Prop) : Value → Point Fq2 → Prop
  | identity : IsPoint₂ pair null none
  | affine {a b a0 a1 b0 b1 : Value} {x y : Fq2} (ha : pair a a0 a1) (hb : pair b b0 b1)
      (hx0 : Spells a0 x.c0.val) (hx1 : Spells a1 x.c1.val)
      (hy0 : Spells b0 y.c0.val) (hy1 : Spells b1 y.c1.val)
      (inSubgroup : Bn254.inSubgroup₂ (some ⟨x, y⟩) = true) :
      IsPoint₂ pair (list [a, b]) (some ⟨x, y⟩)

/-- A point of the first group is read from the values that spell it. -/
theorem toPoint₁_eq_ok_iff {v : Value} {P : Point Fq} :
    toPoint₁ bn254 v = .ok P ↔ IsPoint₁ v P := by
  constructor
  · intro h
    unfold toPoint₁ at h
    split at h
    · rw [← Except.ok.inj h]
      exact .identity
    · obtain ⟨x, hx, h⟩ := bind_eq_ok_iff.mp h
      obtain ⟨y, hy, h⟩ := bind_eq_ok_iff.mp h
      split at h
      · next hcurve =>
        rw [← Except.ok.inj h]
        exact .affine (toResidue_eq_ok_iff.mp hx) (toResidue_eq_ok_iff.mp hy) hcurve
      · cases h
    · cases h
  · intro h
    cases h with
    | identity => rfl
    | affine hx hy hcurve =>
      rw [toPoint₁, toCoordinate, toResidue_eq_ok_iff.mpr hx, ok_bind, toCoordinate,
        toResidue_eq_ok_iff.mpr hy, ok_bind]
      exact if_pos hcurve

/-- The values read as points of the second group leave the outer list in its place. -/
theorem toPoint₂_eq_ok_iff {v : Value} {Q : Point Fq2} :
    toPoint₂ bn254 v = .ok Q ↔ IsPoint₂ Unpacks v Q := by
  constructor
  · intro h
    unfold toPoint₂ at h
    split at h
    · rw [← Except.ok.inj h]
      exact .identity
    · split at h
      · cases h
      · next a0 a1 b0 b1 hfour =>
        obtain ⟨a, b, hv, ha, hb⟩ := fourEntries?_eq_some_iff.mp hfour
        obtain ⟨x0, hx0, h⟩ := bind_eq_ok_iff.mp h
        obtain ⟨x1, hx1, h⟩ := bind_eq_ok_iff.mp h
        obtain ⟨y0, hy0, h⟩ := bind_eq_ok_iff.mp h
        obtain ⟨y1, hy1, h⟩ := bind_eq_ok_iff.mp h
        dsimp only at h
        rw [toCoordinate, toResidue_eq_ok_iff] at hx0 hx1 hy0 hy1
        split at h
        · next hmember =>
          rw [← Except.ok.inj h]
          cases hv with
          | entries => exact .affine ha hb hx0 hx1 hy0 hy1 hmember
          | codePoints => cases ha
          | names =>
            cases ha
            cases hb
            exact absurd (Bool.and_eq_true_iff.mp hmember).1
              (Bn254.not_onCurve_of_le_nine hx0.le_nine hx1.le_nine hy0.le_nine hy1.le_nine)
        · cases h
  · intro h
    cases h with
    | identity => rfl
    | affine ha hb hx0 hx1 hy0 hy1 hmember =>
      have hfour := fourEntries?_eq_some_iff.mpr ⟨_, _, .entries _ _, ha, hb⟩
      simp only [toPoint₂, hfour, toCoordinate, toResidue_eq_ok_iff.mpr hx0,
        toResidue_eq_ok_iff.mpr hx1, toResidue_eq_ok_iff.mpr hy0, toResidue_eq_ok_iff.mpr hy1,
        ok_bind]
      exact if_pos hmember

/-- A point spelled by pairs is spelled by what can be taken apart. -/
theorem IsPoint₂.unpacks {v : Value} {Q : Point Fq2} (h : IsPoint₂ IsPair v Q) :
    IsPoint₂ Unpacks v Q := by
  cases h with
  | identity => exact .identity
  | affine ha hb hx0 hx1 hy0 hy1 hmember =>
    exact .affine ha.unpacks hb.unpacks hx0 hx1 hy0 hy1 hmember

/-- Which values are points, and which points they are. In the second group every list of two pairs
is read that should be; but whatever unpacks into two entries serves as a pair. -/
theorem toPoint_spec (v : Value) :
    (∀ P, toPoint₁ bn254 v = .ok P ↔ IsPoint₁ v P) ∧
      (∀ Q, IsPoint₂ IsPair v Q → toPoint₂ bn254 v = .ok Q) ∧
      ∀ Q, toPoint₂ bn254 v = .ok Q ↔ IsPoint₂ Unpacks v Q :=
  ⟨fun _ => toPoint₁_eq_ok_iff, fun _ h => toPoint₂_eq_ok_iff.mpr h.unpacks,
    fun _ => toPoint₂_eq_ok_iff⟩

/-- The written form of the base of the second group consists of lists. -/
theorem toPoint_spec_base :
    IsPoint₂ IsPair (ofPoint₂ (some Bn254.base₂)) (some Bn254.base₂) ∧
      toPoint₂ bn254 (ofPoint₂ (some Bn254.base₂)) = .ok (some Bn254.base₂) := by
  have hlists : IsPoint₂ IsPair (ofPoint₂ (some Bn254.base₂)) (some Bn254.base₂) :=
    .affine (.entries _ _) (.entries _ _) (spells_ofNat_val _) (spells_ofNat_val _)
      (spells_ofNat_val _) (spells_ofNat_val _) Bn254.inSubgroup₂_base₂
  exact ⟨hlists, (toPoint_spec _).2.1 _ hlists⟩

/-- A point of the second group with its abscissa as an object of two names. -/
def byNames (Q : Affine Fq2) : Value :=
  list [object [(Text.ofNat Q.x.c0.val, null), (Text.ofNat Q.x.c1.val, null)], ofFq2 Q.y]

/-- An object with two names is no pair, so it spells no point. -/
theorem not_isPoint₂_byNames (Q : Affine Fq2) (R : Point Fq2) : ¬IsPoint₂ IsPair (byNames Q) R := by
  intro h
  cases h with
  | affine ha => cases ha

/-- An object whose names spell coordinates is read as if it were the list of them. -/
theorem toPoint₂_byNames {Q : Affine Fq2} (hQ : Bn254.inSubgroup₂ (some Q) = true) :
    toPoint₂ bn254 (byNames Q) = .ok (some Q) :=
  toPoint₂_eq_ok_iff.mpr (.affine (.names _ _ _ _) (.entries _ _) (spells_ofNat_val _)
    (spells_ofNat_val _) (spells_ofNat_val _) (spells_ofNat_val _) hQ)

/-- The base of the second group is accepted in this form. -/
theorem toPoint₂_byNames_base :
    toPoint₂ bn254 (byNames Bn254.base₂) = .ok (some Bn254.base₂) ∧
      ¬IsPoint₂ IsPair (byNames Bn254.base₂) (some Bn254.base₂) :=
  ⟨toPoint₂_byNames Bn254.inSubgroup₂_base₂, not_isPoint₂_byNames _ _⟩

end Value

end PolyCommit
