import PolyCommit.Key.Fields
import PolyCommit.Proofs.Key.Basic
import PolyCommit.Proofs.Value.Overlong

/-!
# Which values are refused as keys

A value of a JSON document that spells no key is refused as malformed, with one exception: where a
list of points is looked for and null, a truth value or a number is found, there is nothing to go
through, and that is no refusal. The fields are found before either is gone through, and the first
before the second. Other values may also hold integers that no refusal can quote.
-/

namespace PolyCommit

namespace Key

variable {T : Type} {E : PairingSystem T} {v : Value}

/-- Whether one of the two fields of a key is there but has no entries, and nothing before it is
refused. -/
inductive LacksEntries (E : PairingSystem T) (v : Value) : Prop
  | first {list₁ list₂ : Value} (h₁ : v.field name₁ = .ok list₁) (h₂ : v.field name₂ = .ok list₂)
      (no_entries : list₁.entries? = none)
  | second {list₁ list₂ : Value} {xs : List Value} {points₁ : List (Point Fq)}
      (h₁ : v.field name₁ = .ok list₁) (h₂ : v.field name₂ = .ok list₂)
      (entries : list₁.entries? = some xs) (points : xs.mapM (Value.toPoint₁ E) = .ok points₁)
      (no_entries : list₂.entries? = none)

/-- A field is read when it is there. -/
theorem keyField_eq_ok_iff {name : String} {w : Value} :
    keyField name v = .ok w ↔ v.field name = .ok w := by
  unfold keyField
  cases v.field name with
  | ok w' => exact ⟨fun h => congrArg _ (Except.ok.inj h), fun h => congrArg _ (Except.ok.inj h)⟩
  | error misfit => exact iff_of_false nofun nofun

/-- A field that is not there is malformed. -/
theorem fails_keyField (name : String) : Fails Failure.IsMalformed (keyField name v) := by
  unfold keyField
  split
  · exact .ok
  · exact .error ⟨_, rfl⟩

/-- The entries of a field are read when it has any to go through. -/
theorem fieldEntries_eq_ok_iff {xs : List Value} :
    fieldEntries v = .ok xs ↔ v.entries? = some xs := by
  unfold fieldEntries
  cases v.entries? with
  | some ys =>
    exact ⟨fun h => congrArg _ (Except.ok.inj h), fun h => congrArg _ (Option.some.inj h)⟩
  | none => exact iff_of_false nofun nofun

/-- A field without entries is a value of the wrong kind. -/
theorem fieldEntries_of_none (h : v.entries? = none) : fieldEntries v = .error .wrongKind := by
  rw [fieldEntries, h]

/-- A field without entries is no refusal. -/
theorem LacksEntries.ofValue_eq (h : LacksEntries E v) : ofValue E v = .error .wrongKind := by
  cases h with
  | first h₁ h₂ hnone =>
    rw [ofValue, keyField_eq_ok_iff.mpr h₁, ok_bind, keyField_eq_ok_iff.mpr h₂, ok_bind,
      fieldEntries_of_none hnone, error_bind]
  | second h₁ h₂ hentries hpoints hnone =>
    rw [ofValue, keyField_eq_ok_iff.mpr h₁, ok_bind, keyField_eq_ok_iff.mpr h₂, ok_bind,
      fieldEntries_eq_ok_iff.mpr hentries, ok_bind, hpoints, ok_bind, fieldEntries_of_none hnone,
      error_bind]

/-- Everything else that can go wrong comes of the value. -/
theorem fails_ofValue (h : ¬LacksEntries E v) : Fails (Failure.ComesOf v) (ofValue E v) := by
  have hfield (name : String) : Fails (Failure.ComesOf v) (keyField name v) :=
    (fails_keyField name).imp fun _ => .inl
  refine .bind (hfield name₁) fun list₁ h₁ => .bind (hfield name₂) fun list₂ h₂ => ?_
  rw [keyField_eq_ok_iff] at h₁ h₂
  cases hxs : list₁.entries? with
  | none => exact absurd (.first h₁ h₂ hxs) h
  | some xs =>
    have hpoints₁ : Fails (Failure.ComesOf v) (xs.mapM (Value.toPoint₁ E)) :=
      .mapM fun x hx => (Value.fails_toPoint₁ E x).of_part fun hv =>
        (hv.of_field h₁).of_mem_entries hxs hx
    rw [fieldEntries_eq_ok_iff.mpr hxs, ok_bind]
    refine .bind hpoints₁ fun points₁ hpoints => ?_
    cases hys : list₂.entries? with
    | none => exact absurd (.second h₁ h₂ hxs hpoints hys) h
    | some ys =>
      have hpoints₂ : Fails (Failure.ComesOf v) (ys.mapM (Value.toPoint₂ E)) :=
        .mapM fun y hy => (Value.fails_toPoint₂ E y).of_part fun hv =>
          (hv.of_field h₂).of_mem_entries hys hy
      rw [fieldEntries_eq_ok_iff.mpr hys, ok_bind]
      exact .bind hpoints₂ fun points₂ _ => fails_ofPoints.imp fun _ => .inl

/-- A value whose texts keep within the limit either spells a key or is refused as malformed, unless
a list of points that is looked for has no entries, or a refusal would have to quote an integer of
too many digits. No value of a JSON document has such an integer. -/
theorem ofValue_spec (E : PairingSystem T)
    (hv : ∀ s, v.HasText s → s.length ≤ Text.digitLimit) :
    (¬LacksEntries E v →
      (∃ key, ofValue E v = .ok key) ∨ (∃ reason, ofValue E v = .error (.malformed reason)) ∨
        ofValue E v = .error .badValue ∧ v.isWritable = false) ∧
    (LacksEntries E v → ofValue E v = .error .wrongKind) ∧
    ∀ bytes, Value.ofDocument? bytes = some v → v.isWritable = true := by
  refine ⟨fun h => ?_, LacksEntries.ofValue_eq, fun bytes => Value.isWritable_of_ofDocument?⟩
  cases hread : ofValue E v with
  | ok key => exact .inl ⟨key, rfl⟩
  | error f =>
    obtain ⟨reason, rfl⟩ | ⟨rfl, hlong⟩ := fails_ofValue h f hread
    · exact .inr (.inl ⟨reason, rfl⟩)
    · refine .inr (.inr ⟨rfl, Bool.eq_false_iff.mpr fun hwritable => hlong ?_⟩)
      exact ⟨Value.not_hasOverlong_of_length_le hv, hwritable⟩

/-! ### Two lists as a value -/

/-- The value with two given fields in the places of the lists. -/
def record (list₁ list₂ : Value) : Value :=
  .object [(Text.ofString name₁, list₁), (Text.ofString name₂, list₂)]

/-- The first list is found. -/
theorem field_record₁ (list₁ list₂ : Value) : (record list₁ list₂).field name₁ = .ok list₁ := by
  simp [record, Value.field, Value.lookup]

/-- The second list is found. -/
theorem field_record₂ (list₁ list₂ : Value) : (record list₁ list₂).field name₂ = .ok list₂ := by
  have hne : Text.ofString name₁ ≠ Text.ofString name₂ := by decide +kernel
  simp [record, Value.field, Value.lookup, hne]

/-- The names of the fields are short. -/
theorem length_le_of_hasText_record {list₁ list₂ : Value} {n : ℕ} (hn : 9 ≤ n)
    (h₁ : ∀ s, list₁.HasText s → s.length ≤ n) (h₂ : ∀ s, list₂.HasText s → s.length ≤ n) {s : Text}
    (h : (record list₁ list₂).HasText s) : s.length ≤ n := by
  have hname₁ : (Text.ofString name₁).length ≤ 9 := by decide +kernel
  have hname₂ : (Text.ofString name₂).length ≤ 9 := by decide +kernel
  cases h with
  | name hmem =>
    simp only [List.mem_cons, List.not_mem_nil, or_false, Prod.mk.injEq] at hmem
    obtain ⟨rfl, -⟩ | ⟨rfl, -⟩ := hmem
    · exact hname₁.trans hn
    · exact hname₂.trans hn
  | field hmem h =>
    simp only [List.mem_cons, List.not_mem_nil, or_false, Prod.mk.injEq] at hmem
    obtain ⟨-, rfl⟩ | ⟨-, rfl⟩ := hmem
    · exact h₁ s h
    · exact h₂ s h

/-- An empty list has no texts. -/
theorem not_hasText_empty {s : Text} : ¬(Value.list []).HasText s := by
  intro h
  cases h with
  | entry hmem => cases hmem

/-- A list of the base of the first curve. -/
def baseList : Value := .list [.ofPoint₁ (some Bn254.base₁)]

/-- The coordinates of the base have one digit each. -/
theorem length_le_of_hasText_baseList {s : Text} (h : baseList.HasText s) : s.length ≤ 1 := by
  have hcoordinate : ∀ v ∈ [Value.ofNat 1, .ofNat 2], ∀ t, v.HasText t → t.length ≤ 1 := by
    intro v hv t ht
    simp only [List.mem_cons, List.not_mem_nil, or_false] at hv
    obtain rfl | rfl := hv <;> cases ht <;> decide +kernel
  cases h with
  | entry hmem h =>
    rw [List.mem_singleton.mp hmem] at h
    cases h with
    | entry hmem h => exact hcoordinate _ hmem s h

/-- The base is read. -/
theorem mapM_toPoint₁_base :
    [Value.ofPoint₁ (some Bn254.base₁)].mapM (Value.toPoint₁ bn254) = .ok [some Bn254.base₁] := by
  rw [List.mapM_cons, Value.toPoint₁_ofPoint₁ bn254 (by decide +kernel)]
  rfl

/-- A list of the base and a list of the identity have entries to go through and numerals to quote.
Where null is in the place of the second list, the base is read before that is found. -/
theorem ofValue_spec_base :
    ((∃ key, ofValue bn254 (record baseList (.list [.null])) = .ok key) ∨
      ∃ reason, ofValue bn254 (record baseList (.list [.null])) = .error (.malformed reason)) ∧
    ofValue bn254 (record baseList .null) = .error .wrongKind := by
  have hbase : ∀ s, baseList.HasText s → s.length ≤ Text.digitLimit := fun s h =>
    (length_le_of_hasText_baseList h).trans (by decide)
  have hnull : ∀ s, (Value.list [.null]).HasText s → s.length ≤ Text.digitLimit := by
    intro s h
    cases h with
    | entry hmem h =>
      rw [List.mem_singleton.mp hmem] at h
      cases h
  have hlacks : ¬LacksEntries bn254 (record baseList (.list [.null])) := by
    intro h
    cases h with
    | first h₁ h₂ hnone =>
      rw [field_record₁] at h₁
      cases Except.ok.inj h₁
      cases hnone
    | second h₁ h₂ hentries hpoints hnone =>
      rw [field_record₂] at h₂
      cases Except.ok.inj h₂
      cases hnone
  have hshort := ofValue_spec bn254 fun s => length_le_of_hasText_record (by decide) hbase hnull
  have hmissing : LacksEntries bn254 (record baseList .null) :=
    .second (field_record₁ _ _) (field_record₂ _ _) rfl mapM_toPoint₁_base rfl
  constructor
  · obtain hkey | hrefused | ⟨-, hunwritable⟩ := hshort.1 hlacks
    · exact .inl hkey
    · exact .inr hrefused
    · cases hunwritable
  · exact (ofValue_spec bn254 fun s => length_le_of_hasText_record (by decide) hbase
      fun s h => by cases h).2.1 hmissing

/-- A null in the place of the first list is no refusal, although no text in the value is long. -/
theorem ofValue_null :
    (∀ s, (record .null (.list [])).HasText s → s.length ≤ Text.digitLimit) ∧
      (¬∃ key, ofValue bn254 (record .null (.list [])) = .ok key) ∧
      ¬∃ reason, ofValue bn254 (record .null (.list [])) = .error (.malformed reason) := by
  have hread : ofValue bn254 (record .null (.list [])) = .error .wrongKind :=
    LacksEntries.ofValue_eq (.first (field_record₁ _ _) (field_record₂ _ _) rfl)
  refine ⟨fun s => length_le_of_hasText_record (by decide) (fun s h => by cases h)
    fun s h => absurd h not_hasText_empty, ?_, ?_⟩
  · rintro ⟨key, h⟩
    cases hread.symm.trans h
  · rintro ⟨reason, h⟩
    cases hread.symm.trans h

end Key

end PolyCommit
