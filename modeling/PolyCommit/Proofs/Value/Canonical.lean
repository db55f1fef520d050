import PolyCommit.Proofs.Key.Fields
import PolyCommit.Proofs.Witness.Codec

/-!
# Canonical forms

A scalar can be spelled by an integer or by a numeral with leading zeros or in the digits of another
script, and an object can list its fields in any order. To read a value and to write what was read
gives its canonical form. It is read as the same and is its own canonical form, and two values share
one exactly when they are read as the same. For every kind of value this follows from two facts:
members are read back from what is written for them, and only members are read.
-/

namespace PolyCommit

namespace Value

variable {α : Type} {read : Value → Except Failure α} {write : α → Value} {member : α → Prop}

/-- The canonical form of a value: what is written for that which the value is read as. -/
def canonical (read : Value → Except Failure α) (write : α → Value) (v : Value) :
    Except Failure Value :=
  (read v).map write

/-- Whether a reader and a writer give canonical forms, for the members of a type. -/
structure IsCanonical (read : Value → Except Failure α) (write : α → Value) (member : α → Prop) :
    Prop where
  /-- Members are read back. -/
  read_write : ∀ a, member a → read (write a) = .ok a
  /-- What is read is a member, and is read again from the canonical form. -/
  reread : ∀ v a, read v = .ok a → member a ∧ read (write a) = .ok a
  /-- A canonical form is its own. -/
  idempotent : ∀ v c, canonical read write v = .ok c → canonical read write c = .ok c
  /-- Values that are read have the same canonical form exactly when they are read as the same. -/
  canonical_eq_iff : ∀ v v' a a', read v = .ok a → read v' = .ok a' →
    (canonical read write v = canonical read write v' ↔ a = a')

/-- The canonical form of a value that is read. -/
theorem canonical_eq {v : Value} {a : α} (h : read v = .ok a) :
    canonical read write v = .ok (write a) := by
  rw [canonical, h]
  rfl

/-- A value with a canonical form is read. -/
theorem exists_read_of_canonical {v c : Value} (h : canonical read write v = .ok c) :
    ∃ a, read v = .ok a ∧ c = write a := by
  unfold canonical at h
  cases hread : read v with
  | error f =>
    rw [hread] at h
    cases h
  | ok a =>
    rw [hread] at h
    exact ⟨a, rfl, (Except.ok.inj h).symm⟩

/-- Canonical forms come of reading members back and of reading only members. -/
theorem isCanonical_of_yields (hread : ∀ a, member a → read (write a) = .ok a)
    (hyields : ∀ v, Yields member (read v)) : IsCanonical read write member where
  read_write := hread
  reread v a h := ⟨hyields v a h, hread a (hyields v a h)⟩
  idempotent v c h := by
    obtain ⟨a, ha, rfl⟩ := exists_read_of_canonical h
    exact canonical_eq (hread a (hyields v a ha))
  canonical_eq_iff v v' a a' h h' := by
    rw [canonical_eq h, canonical_eq h', Except.ok.injEq]
    constructor
    · intro hwrite
      have hback := hread a (hyields v a h)
      rw [hwrite, hread a' (hyields v' a' h')] at hback
      exact (Except.ok.inj hback).symm
    · intro ha
      rw [ha]

/-- Scalars, polynomials, points of both groups, keys and witnesses have canonical forms. The points
are the identity and the points of the first curve, and the identity and the points of the twist of
the right order; the keys and the witnesses are those of such points. -/
theorem canonical_forms :
    IsCanonical toScalar ofFr (fun _ => True) ∧
    IsCanonical toPoly ofPoly (fun _ => True) ∧
    IsCanonical (toPoint₁ bn254) ofPoint₁ (fun P => Bn254.onCurve₁ P = true) ∧
    IsCanonical (toPoint₂ bn254) ofPoint₂ (fun Q => Bn254.inSubgroup₂ Q = true) ∧
    IsCanonical (Key.ofValue bn254) Key.toValue (Key.IsContained bn254) ∧
    IsCanonical (Witness.ofValue bn254) Witness.toValue (Witness.IsContained bn254) := by
  refine ⟨?scalar, ?poly, ?point₁, ?point₂, ?key, ?witness⟩
  case scalar =>
    exact isCanonical_of_yields (fun x _ => toScalar_ofFr x) fun _ _ _ => trivial
  case poly =>
    exact isCanonical_of_yields (fun p _ => toPoly_ofPoly p) fun _ _ _ => trivial
  case point₁ =>
    exact isCanonical_of_yields (fun _ hP => toPoint₁_ofPoint₁ bn254 hP) (yields_toPoint₁ bn254)
  case point₂ =>
    exact isCanonical_of_yields (fun _ hQ => toPoint₂_ofPoint₂ bn254 hQ) (yields_toPoint₂ bn254)
  case key =>
    exact isCanonical_of_yields (fun _ hkey => Key.ofValue_toValue hkey)
      fun _ _ h => Key.isContained_of_ofValue h
  case witness =>
    exact isCanonical_of_yields (fun _ hw => Witness.ofValue_of_reordered hw (.same _))
      Witness.yields_ofValue

/-- An integer, a numeral with leading zeros and a numeral in Devanagari digits have the same
canonical form. -/
theorem canonical_forms_numerals :
    toScalar (int 42) = .ok (Residue.ofNat 42) ∧
    toScalar (ofString "0042") = .ok (Residue.ofNat 42) ∧
    toScalar (ofString "४२") = .ok (Residue.ofNat 42) ∧
    canonical toScalar ofFr (int 42) = canonical toScalar ofFr (ofString "0042") ∧
    canonical toScalar ofFr (ofString "0042") = canonical toScalar ofFr (ofString "४२") := by
  have hint : toScalar (int 42) = .ok (Residue.ofNat 42) := rfl
  have hzeros : toScalar (ofString "0042") = .ok (Residue.ofNat 42) := rfl
  have hdigits : Text.decimal (Text.ofString "४२") = .number 42 := by decide +kernel
  have hscript : toScalar (ofString "४२") = .ok (Residue.ofNat 42) := by
    rw [toScalar, toResidue, ofString, toDecimal, hdigits]
    rfl
  exact ⟨hint, hzeros, hscript, (canonical_forms.1.canonical_eq_iff _ _ _ _ hint hzeros).mpr rfl,
    (canonical_forms.1.canonical_eq_iff _ _ _ _ hzeros hscript).mpr rfl⟩

end Value

end PolyCommit
