import PolyCommit.Value.Points
import PolyCommit.Proofs.Curve.PointGroup
import PolyCommit.Proofs.Outcome
import PolyCommit.Proofs.Text.Numeral

/-!
# Scalars and points are read back

Writing a scalar, a coordinate or a member of a group as a JSON value and reading it gives it back.
The representatives of residues are far below the limit on digits, and the checks on range and
membership pass. Whatever is read is a member of its group.
-/

namespace PolyCommit

namespace Value

/-- A numeral within the limit is read as its number. -/
theorem toDecimal_ofNat {k : ℕ} (h : k < 10 ^ Text.digitLimit) : toDecimal (ofNat k) = .ok k := by
  rw [ofNat, toDecimal, Text.decimal_ofNat h]

/-- A numeral is read as the residue that it spells, if it spells one. -/
theorem toResidue_ofNat {n k : ℕ} (hk : k < 10 ^ Text.digitLimit) (refusal : Malformed) :
    toResidue n refusal (ofNat k) =
      if h : k < n then .ok ⟨k, h⟩ else .error (.quoting (.malformed refusal)) := by
  rw [toResidue, toDecimal_ofNat hk, ok_bind]
  simp only [Int.toNat_natCast, Int.natCast_nonneg, if_true]

/-- A residue is read back from its representative. -/
theorem toResidue_ofNat_val {n : ℕ} (hn : n ≤ 10 ^ Text.digitLimit) (refusal : Malformed)
    (x : Residue n) : toResidue n refusal (ofNat x.val) = .ok x := by
  rw [toResidue_ofNat (x.isLt.trans_le hn), dif_pos x.isLt]

/-- Scalars have numerals within the limit. -/
theorem groupOrder_le_pow : groupOrder ≤ 10 ^ Text.digitLimit :=
  le_trans (by decide : groupOrder ≤ 10 ^ 80) (Nat.pow_le_pow_right (by decide) (by decide))

/-- Coordinates have numerals within the limit. -/
theorem fieldModulus_le_pow : fieldModulus ≤ 10 ^ Text.digitLimit :=
  le_trans (by decide : fieldModulus ≤ 10 ^ 80) (Nat.pow_le_pow_right (by decide) (by decide))

/-- Scalars are read back. -/
theorem toScalar_ofFr (x : Fr) : toScalar (ofFr x) = .ok x :=
  toResidue_ofNat_val groupOrder_le_pow _ x

/-- Coordinates are read back. -/
theorem toCoordinate_ofNat (x : Fq) : toCoordinate (ofNat x.val) = .ok x :=
  toResidue_ofNat_val fieldModulus_le_pow _ x

/-- Polynomials are read back. -/
theorem toPoly_ofPoly (p : Poly) : toPoly (ofPoly p) = .ok p := by
  rw [ofPoly, toPoly]
  exact mapM_map_eq_ok fun x _ => toScalar_ofFr x

variable {T : Type} (E : PairingSystem T)

/-- Members of the first group are read back. -/
theorem toPoint₁_ofPoint₁ {P : Point Fq} (hP : E.g₁.contains P = true) :
    toPoint₁ E (ofPoint₁ P) = .ok P := by
  cases P with
  | none => rfl
  | some P =>
    rw [ofPoint₁, toPoint₁, toCoordinate_ofNat, ok_bind, toCoordinate_ofNat, ok_bind, if_pos hP]
    rfl

/-- Members of the second group are read back. -/
theorem toPoint₂_ofPoint₂ {Q : Point Fq2} (hQ : E.g₂.contains Q = true) :
    toPoint₂ E (ofPoint₂ Q) = .ok Q := by
  cases Q with
  | none => rfl
  | some Q =>
    have hfour : (ofPoint₂ (some Q)).fourEntries? =
        some (ofNat Q.x.c0.val, ofNat Q.x.c1.val, ofNat Q.y.c0.val, ofNat Q.y.c1.val) := rfl
    rw [ofPoint₂, ofFq2, ofFq2] at hfour ⊢
    simp only [toPoint₂, hfour, toCoordinate_ofNat, ok_bind]
    rw [if_pos hQ]
    rfl

/-- Only members of the first group are read. -/
theorem yields_toPoint₁ [E.g₁.Lawful] (v : Value) :
    Yields (fun P => E.g₁.contains P = true) (toPoint₁ E v) := by
  unfold toPoint₁
  split
  · exact .ok PointGroup.Lawful.contains_none
  · refine .bind fun x => .bind fun y => ?_
    split
    · next h => exact .ok h
    · exact .error
  · exact .error

/-- Only members of the second group are read. -/
theorem yields_toPoint₂ [E.g₂.Lawful] (v : Value) :
    Yields (fun Q => E.g₂.contains Q = true) (toPoint₂ E v) := by
  unfold toPoint₂
  split
  · exact .ok PointGroup.Lawful.contains_none
  · split
    · exact .error
    · refine .bind fun x0 => .bind fun x1 => .bind fun y0 => .bind fun y1 => ?_
      dsimp only
      split
      · next h => exact .ok h
      · exact .error

end Value

end PolyCommit
