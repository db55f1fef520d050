import PolyCommit.Witness.Fields
import PolyCommit.Proofs.Bytes.Hex
import PolyCommit.Proofs.Bytes.Points
import PolyCommit.Proofs.Value.Order
import PolyCommit.Proofs.Value.Points

/-!
# Witnesses are read back

A witness whose points are members of the first group is read back from its JSON value, whatever the
order of the fields, from its bytes and from its hex text. The identity is a member, so this takes
in the witnesses of constant polynomials and those for roots. Bytes are read as a witness exactly
when they are the encoding of a witness of members, and are refused as malformed otherwise.
-/

namespace PolyCommit

namespace Witness

variable {T : Type} {E : PairingSystem T} {w : Witness}

/-- Whether both points of a witness are members of the first group. -/
structure IsContained (E : PairingSystem T) (w : Witness) : Prop where
  value : E.g₁.contains w.value = true
  quotient : E.g₁.contains w.quotient = true

/-- Whether a value is a form in which a witness is sent: its own value, whatever the order of the
fields, or its hex text. -/
def IsForm (w : Witness) (v : Value) : Prop := w.toValue.Reordered v ∨ v = .str w.toHex

/-! ### Fields -/

/-- The fields of a witness are found in any order. -/
theorem witnessField_of_reordered {v : Value} (h : w.toValue.Reordered v) (name : String) :
    witnessField name v = witnessField name w.toValue := by
  have hnames : [Text.ofString pointName, Text.ofString valueName,
      Text.ofString quotientName].Nodup := by decide +kernel
  rw [witnessField, Value.field_eq_of_reordered h hnames]
  rfl

/-- The point of a written witness is found. -/
theorem witnessField_pointName : witnessField pointName w.toValue = .ok (.ofFr w.point) := by
  simp [witnessField, toValue, Value.field, Value.lookup]

/-- The value of a written witness is found. -/
theorem witnessField_valueName : witnessField valueName w.toValue = .ok (.ofPoint₁ w.value) := by
  have hne : Text.ofString pointName ≠ Text.ofString valueName := by decide +kernel
  simp [witnessField, toValue, Value.field, Value.lookup, hne]

/-- The quotient of a written witness is found. -/
theorem witnessField_quotientName :
    witnessField quotientName w.toValue = .ok (.ofPoint₁ w.quotient) := by
  have hne : Text.ofString pointName ≠ Text.ofString quotientName := by decide +kernel
  have hne' : Text.ofString valueName ≠ Text.ofString quotientName := by decide +kernel
  simp [witnessField, toValue, Value.field, Value.lookup, hne, hne']

/-- A witness of members is read back from its value, whatever the order of the fields. -/
theorem ofValue_of_reordered (hw : w.IsContained E) {v : Value} (h : w.toValue.Reordered v) :
    ofValue E v = .ok w := by
  rw [ofValue, witnessField_of_reordered h, witnessField_of_reordered h,
    witnessField_of_reordered h, witnessField_pointName, ok_bind, Value.toScalar_ofFr, ok_bind,
    witnessField_valueName, ok_bind, Value.toPoint₁_ofPoint₁ E hw.value, ok_bind,
    witnessField_quotientName, ok_bind, Value.toPoint₁_ofPoint₁ E hw.quotient, ok_bind]
  rfl

/-- Whatever a value is, the witness that it spells consists of members. -/
theorem yields_ofValue [E.g₁.Lawful] (v : Value) : Yields (IsContained E) (ofValue E v) := by
  intro w h
  rw [ofValue] at h
  obtain ⟨_, -, h⟩ := bind_eq_ok_iff.mp h
  obtain ⟨_, -, h⟩ := bind_eq_ok_iff.mp h
  obtain ⟨_, -, h⟩ := bind_eq_ok_iff.mp h
  obtain ⟨value, hvalue, h⟩ := bind_eq_ok_iff.mp h
  obtain ⟨_, -, h⟩ := bind_eq_ok_iff.mp h
  obtain ⟨quotient, hquotient, h⟩ := bind_eq_ok_iff.mp h
  rw [← Except.ok.inj h]
  exact ⟨Value.yields_toPoint₁ E _ value hvalue, Value.yields_toPoint₁ E _ quotient hquotient⟩

/-! ### Bytes -/

section Bytes

variable [E.g₁.Lawful] [E.g₁.OriginFree] {data : Bytes}

/-- Bytes are read as a witness exactly when they are the encoding of a witness of members. -/
theorem ofBytes_eq_ok_iff : ofBytes E data = .ok w ↔ w.IsContained E ∧ w.toBytes = data := by
  constructor
  · intro h
    unfold ofBytes at h
    split at h
    · cases h
    · obtain ⟨point, hpoint, h⟩ := bind_eq_ok_iff.mp h
      obtain ⟨value, hvalue, h⟩ := bind_eq_ok_iff.mp h
      obtain ⟨quotient, hquotient, h⟩ := bind_eq_ok_iff.mp h
      obtain ⟨hvalue, hmember⟩ := Decoding.point₁_eq_ok_iff.mp hvalue
      obtain ⟨hquotient, hmember'⟩ := Decoding.point₁_eq_ok_iff.mp hquotient
      rw [← Except.ok.inj h]
      refine ⟨⟨hmember, hmember'⟩, ?_⟩
      -- the three pieces that were read lie next to each other and leave nothing over
      rw [toBytes, ← Decoding.scalar_eq_ok_iff.mp hpoint, ← hvalue, ← hquotient,
        List.append_assoc, ← List.drop_drop, List.take_append_drop, List.take_append_drop]
  · rintro ⟨hw, rfl⟩
    have hpoint : w.toBytes.take scalarBytes = Encoding.scalar w.point := by
      rw [toBytes, List.append_assoc, List.take_left' (Encoding.length_scalar _)]
    have hvalue : (w.toBytes.drop scalarBytes).take point₁Bytes = Encoding.point₁ w.value := by
      rw [toBytes, List.append_assoc, List.drop_left' (Encoding.length_scalar _),
        List.take_left' (Encoding.length_point₁ _)]
    have hquotient :
        w.toBytes.drop (scalarBytes + point₁Bytes) = Encoding.point₁ w.quotient := by
      rw [toBytes, List.drop_left' (by simp)]
    rw [ofBytes, if_neg (by simp), hpoint, hvalue, hquotient, Decoding.scalar_eq_ok_iff.mpr rfl,
      Decoding.point₁_eq_ok_iff.mpr ⟨rfl, hw.value⟩,
      Decoding.point₁_eq_ok_iff.mpr ⟨rfl, hw.quotient⟩]
    rfl

/-- A witness of members is read back from its bytes. -/
theorem ofBytes_toBytes (hw : w.IsContained E) : ofBytes E w.toBytes = .ok w :=
  ofBytes_eq_ok_iff.mpr ⟨hw, rfl⟩

/-- Whatever bytes are, the witness that they spell consists of members. -/
theorem yields_ofBytes (data : Bytes) : Yields (IsContained E) (ofBytes E data) :=
  fun _ h => (ofBytes_eq_ok_iff.mp h).1

/-- Whatever a hex text is, the witness that it spells consists of members. -/
theorem yields_ofHex (v : Value) : Yields (IsContained E) (ofHex E v) := by
  unfold ofHex
  split
  · split
    · exact yields_ofBytes _
    · exact .error
  · exact .error

/-- A witness of members is read back from its hex text. -/
theorem ofHex_toHex (hw : w.IsContained E) : ofHex E (.str w.toHex) = .ok w := by
  simp only [ofHex, toHex, Hex.decode?_encode, ofBytes_toBytes hw]

end Bytes

/-- Everything that is not read as a witness is refused as malformed. -/
theorem fails_ofBytes {data : Bytes} : Fails Failure.IsMalformed (ofBytes E data) := by
  unfold ofBytes
  split
  · exact .error ⟨_, rfl⟩
  · exact .bind Decoding.fails_scalar fun _ _ => .bind Decoding.fails_point₁ fun _ _ =>
      .bind Decoding.fails_point₁ fun _ _ => .ok

/-- Writing and reading are inverse to each other between the witnesses of members, which take 160
bytes each, and the bytes that are read at all. All other bytes are refused as malformed, and
witnesses of members are told apart by their encodings. -/
theorem bytes_exact :
    (∀ w : Witness, w.IsContained bn254 →
      w.toBytes.length = 160 ∧ ofBytes bn254 w.toBytes = .ok w) ∧
    (∀ data, (∃ reason, ofBytes bn254 data = .error (.malformed reason)) ∨
      ∃ w, ofBytes bn254 data = .ok w ∧ w.IsContained bn254 ∧ w.toBytes = data) ∧
    ∀ w w' : Witness, w.IsContained bn254 → w'.IsContained bn254 →
      (w = w' ↔ w.toBytes = w'.toBytes) := by
  refine ⟨?written, ?read, ?distinct⟩
  case written =>
    intro w hw
    exact ⟨length_toBytes w, ofBytes_toBytes hw⟩
  case read =>
    intro data
    cases h : ofBytes bn254 data with
    | error f =>
      obtain ⟨reason, rfl⟩ := fails_ofBytes f h
      exact .inl ⟨reason, rfl⟩
    | ok w => exact .inr ⟨w, rfl, ofBytes_eq_ok_iff.mp h⟩
  case distinct =>
    intro w w' hw hw'
    constructor
    · intro h
      rw [h]
    · intro h
      have hread := ofBytes_toBytes hw
      rw [h, ofBytes_toBytes hw'] at hread
      exact (Except.ok.inj hread).symm

/-- A witness for the largest point, with the identity for its quotient, is read back. -/
theorem bytes_exact_identity : ∃ w : Witness, w.point.val = groupOrder - 1 ∧
    w.value = bn254.g₁.base ∧ w.quotient = none ∧ w.IsContained bn254 ∧
    w.toBytes.length = 160 ∧ ofBytes bn254 w.toBytes = .ok w := by
  have hw : IsContained bn254 ⟨-1, bn254.g₁.base, none⟩ :=
    ⟨PointGroup.Lawful.contains_base, PointGroup.Lawful.contains_none⟩
  exact ⟨_, by decide, rfl, rfl, hw, bytes_exact.1 _ hw⟩

end Witness

end PolyCommit
