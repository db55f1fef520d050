import PolyCommit.Key.Fields
import PolyCommit.Proofs.Key.Basic
import PolyCommit.Proofs.Value.Order
import PolyCommit.Proofs.Value.Points

/-!
# Keys are read back from their records

A key whose points are members of their groups is the key that its own JSON value spells, whatever
the order of the fields, and no value spells any other key.
-/

namespace PolyCommit

namespace Key

variable {T : Type} {E : PairingSystem T} {key : Key}

/-- Whether all points of a key are members of their groups. -/
def IsContained (E : PairingSystem T) (key : Key) : Prop :=
  (∀ P ∈ key.points₁, E.g₁.contains P = true) ∧ ∀ Q ∈ key.points₂, E.g₂.contains Q = true

/-- The first field of a written key lists its points of the first group. -/
theorem keyField_name₁ :
    keyField name₁ key.toValue = .ok (.list (key.points₁.map Value.ofPoint₁)) := by
  simp [keyField, toValue, Value.field, Value.lookup]

/-- The second field of a written key lists its points of the second group. -/
theorem keyField_name₂ :
    keyField name₂ key.toValue = .ok (.list (key.points₂.map Value.ofPoint₂)) := by
  have hne : Text.ofString name₁ ≠ Text.ofString name₂ := by decide +kernel
  simp [keyField, toValue, Value.field, Value.lookup, hne]

/-- The fields of a key are found in any order. -/
theorem keyField_of_reordered {v : Value} (h : key.toValue.Reordered v) (name : String) :
    keyField name v = keyField name key.toValue := by
  have hnames : [Text.ofString name₁, Text.ofString name₂].Nodup := by decide +kernel
  rw [keyField, Value.field_eq_of_reordered h hnames]
  rfl

/-- A key of members is read back from its value, whatever the order of the fields. -/
theorem ofValue_of_reordered (hkey : key.IsContained E) {v : Value}
    (h : key.toValue.Reordered v) : ofValue E v = .ok key := by
  have hpoints₁ : (key.points₁.map Value.ofPoint₁).mapM (Value.toPoint₁ E) = .ok key.points₁ :=
    mapM_map_eq_ok fun P hP => Value.toPoint₁_ofPoint₁ E (hkey.1 P hP)
  have hpoints₂ : (key.points₂.map Value.ofPoint₂).mapM (Value.toPoint₂ E) = .ok key.points₂ :=
    mapM_map_eq_ok fun Q hQ => Value.toPoint₂_ofPoint₂ E (hkey.2 Q hQ)
  rw [ofValue, keyField_of_reordered h, keyField_name₁, ok_bind, keyField_of_reordered h,
    keyField_name₂, ok_bind]
  simp only [fieldEntries, Value.entries?, ok_bind, hpoints₁, hpoints₂, ofPoints_points]

/-- A key of members is read back from its record. -/
theorem ofValue_toValue (hkey : key.IsContained E) : ofValue E key.toValue = .ok key :=
  ofValue_of_reordered hkey (.same _)

/-- Whatever a value is, the key that it spells consists of members. -/
theorem isContained_of_ofValue [E.g₁.Lawful] [E.g₂.Lawful] {v : Value}
    (h : ofValue E v = .ok key) : key.IsContained E := by
  rw [ofValue] at h
  obtain ⟨list₁, -, h⟩ := bind_eq_ok_iff.mp h
  obtain ⟨list₂, -, h⟩ := bind_eq_ok_iff.mp h
  obtain ⟨entries₁, -, h⟩ := bind_eq_ok_iff.mp h
  obtain ⟨points₁, hpoints₁, h⟩ := bind_eq_ok_iff.mp h
  obtain ⟨entries₂, -, h⟩ := bind_eq_ok_iff.mp h
  obtain ⟨points₂, hpoints₂, h⟩ := bind_eq_ok_iff.mp h
  obtain ⟨rfl, rfl⟩ := ofPoints_eq_ok_iff.mp h
  exact ⟨Yields.mapM (Value.yields_toPoint₁ E) _ hpoints₁,
    Yields.mapM (Value.yields_toPoint₂ E) _ hpoints₂⟩

end Key

end PolyCommit
