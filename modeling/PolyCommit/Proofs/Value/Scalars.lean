import PolyCommit.Proofs.Value.Overlong
import PolyCommit.Proofs.Value.Shapes

/-!
# The grammar of scalars

A scalar is spelled by an integer in its range or by a text of decimal digits with a value in its
range. The digits may come from several scripts and begin with zeros, and all of them count towards
the limit on digits. A text of more digits than that is no refusal but a fault; whatever else a
value is, it is refused as malformed, if the refusal can quote it. An integer of too many digits
cannot be quoted, but the integers of a JSON document keep within the limit. The scalars of a
polynomial are read one by one, up to the first that cannot be read.
-/

namespace PolyCommit

namespace Value

/-- The values that spell a number, with the digits of a text by their places. -/
theorem spells_iff {v : Value} {k : ℕ} : Spells v k ↔ v = int k ∨
    ∃ s ds, v = str s ∧ s.HasDigits ds ∧ s ≠ [] ∧ s.length ≤ Text.digitLimit ∧
      Nat.ofDigits 10 ds.reverse = k := by
  constructor
  · intro h
    cases h with
    | integer => exact .inl rfl
    | @digits s ds hdigits hne hlength =>
      exact .inr ⟨s, ds, rfl, Text.mapM_digit?_eq_some_iff.mp hdigits, hne, hlength,
        (Text.ofDigits_eq ds).symm⟩
  · rintro (rfl | ⟨s, ds, rfl, hdigits, hne, hlength, rfl⟩)
    · exact .integer k
    · rw [← Text.ofDigits_eq]
      exact .digits (Text.mapM_digit?_eq_some_iff.mpr hdigits) hne hlength

/-- Where refusals can be written, reading a number ends as a fault exactly for a text of too many
digits. -/
theorem toDecimal_eq_badValue_iff {v : Value} (hv : v.isWritable = true) :
    toDecimal v = .error .badValue ↔
      ∃ s ds, v = str s ∧ s.HasDigits ds ∧ Text.digitLimit < s.length := by
  have hrefused : (Refusal.malformed (.notDecimal v)).isWritable = true := hv
  constructor
  · intro h
    unfold toDecimal at h
    split at h
    · cases h
    · next s =>
      split at h
      · cases h
      · next hlong =>
        obtain ⟨ds, hdigits, hlength⟩ := Text.decimal_eq_tooLong_iff.mp hlong
        exact ⟨s, ds, rfl, Text.mapM_digit?_eq_some_iff.mp hdigits, hlength⟩
      · cases (congrArg Except.error (Failure.quoting_eq hrefused)).symm.trans h
    · cases (congrArg Except.error (Failure.quoting_eq hrefused)).symm.trans h
  · rintro ⟨s, ds, rfl, hdigits, hlength⟩
    rw [toDecimal,
      Text.decimal_eq_tooLong_iff.mpr ⟨ds, Text.mapM_digit?_eq_some_iff.mpr hdigits, hlength⟩]

/-- The range of a residue is checked by refusals, so where these can be written its faults are
those of the number. -/
theorem toResidue_eq_badValue_iff {n : ℕ} {refusal : Malformed} {v : Value}
    (hrefusal : refusal.isWritable = true) :
    toResidue n refusal v = .error .badValue ↔ toDecimal v = .error .badValue := by
  have hrefused : (Refusal.malformed refusal).isWritable = true := hrefusal
  rw [toResidue, Failure.quoting_eq hrefused]
  cases toDecimal v with
  | error f => rw [error_bind, Except.error.injEq, Except.error.injEq]
  | ok k =>
    rw [ok_bind]
    refine iff_of_false (fun h => ?_) fun h => ?_
    · split at h
      · split at h <;> cases h
      · cases h
    · cases h

/-- A value with an integer of too many digits is no residue, and no refusal can quote it. -/
theorem toResidue_eq_badValue {n : ℕ} (hn : n ≤ 10 ^ Text.digitLimit) {refusal : Malformed}
    {v : Value} (hv : v.isWritable = false) (hrefusal : refusal.isWritable = false) :
    toResidue n refusal v = .error .badValue := by
  have hnotDecimal : (Refusal.malformed (.notDecimal v)).isWritable = false := hv
  have hrefused : (Refusal.malformed refusal).isWritable = false := hrefusal
  rw [toResidue, Failure.quoting_eq_badValue hrefused]
  cases v with
  | int k =>
    have hlarge : ¬k.natAbs < 10 ^ Text.digitLimit := fun h =>
      absurd (isWritable_int_iff.mpr h) (by rw [hv]; exact Bool.false_ne_true)
    rw [toDecimal, ok_bind]
    split
    · exact if_neg fun hnonneg => by omega
    · rfl
  | list xs =>
    change Except.error (Failure.quoting _) >>= _ = _
    rw [Failure.quoting_eq_badValue hnotDecimal, error_bind]
  | object fields =>
    change Except.error (Failure.quoting _) >>= _ = _
    rw [Failure.quoting_eq_badValue hnotDecimal, error_bind]
  | _ => cases hv

/-- A scalar is read from an integer in its range and from a text of at most 4300 digits, of
whatever scripts, with a value in its range. Where a refusal can be written, as it can for every
value of a JSON document, a text of more digits is a fault and every other value is malformed;
elsewhere each value is a fault. A polynomial is read from a list of scalars, and otherwise fails as
the first of them that cannot be read. -/
theorem scalar_grammar :
    (∀ v x, toScalar v = .ok x ↔ v = int x.val ∨
      ∃ s ds, v = str s ∧ s.HasDigits ds ∧ s ≠ [] ∧ s.length ≤ 4300 ∧
        Nat.ofDigits 10 ds.reverse = x.val) ∧
    (∀ v, v.isWritable = true → (toScalar v = .error .badValue ↔
      ∃ s ds, v = str s ∧ s.HasDigits ds ∧ 4300 < s.length)) ∧
    (∀ v, (∃ x, toScalar v = .ok x) ∨ toScalar v = .error .badValue ∨
      ∃ reason, toScalar v = .error (.malformed reason)) ∧
    (∀ bytes v, ofDocument? bytes = some v → v.isWritable = true) ∧
    (∀ v, v.isWritable = false → toScalar v = .error .badValue) ∧
    (∀ xs p, toPoly (list xs) = .ok p ↔ List.Forall₂ (fun v x => toScalar v = .ok x) xs p) ∧
    ∀ xs f, toPoly (list xs) = .error f ↔ ∃ before v after, xs = before ++ v :: after ∧
      (∀ w ∈ before, ∃ x, toScalar w = .ok x) ∧ toScalar v = .error f := by
  refine ⟨fun v x => ?read, fun v hv => ?fault, fun v => ?other, fun bytes v => ?document,
    fun v hv => ?unwritable, fun xs p => ?list, fun xs f => ?first⟩
  case read => exact toResidue_eq_ok_iff.trans spells_iff
  case fault =>
    have hrefusal : (Malformed.scalarRange v).isWritable = true := hv
    exact (toResidue_eq_badValue_iff hrefusal).trans (toDecimal_eq_badValue_iff hv)
  case other =>
    cases h : toScalar v with
    | ok x => exact .inl ⟨x, rfl⟩
    | error f =>
      obtain ⟨reason, rfl⟩ | ⟨rfl, -⟩ := fails_toScalar v f h
      · exact .inr (.inr ⟨reason, rfl⟩)
      · exact .inr (.inl rfl)
  case document => exact isWritable_of_ofDocument?
  case unwritable => exact toResidue_eq_badValue groupOrder_le_pow hv hv
  case list => exact mapM_eq_ok_iff
  case first => exact mapM_eq_error_iff

/-- The least number of too many digits cannot be quoted, nor a list of it. The number before it is
malformed when its sign is negative. -/
theorem scalar_grammar_limit :
    toScalar (int (10 ^ Text.digitLimit : ℕ)) = .error .badValue ∧
    toScalar (list [int (10 ^ Text.digitLimit : ℕ)]) = .error .badValue ∧
    ∃ reason, toScalar (int (-(10 ^ Text.digitLimit - 1 : ℕ))) = .error (.malformed reason) := by
  obtain ⟨hread, hfault, hother, -, hunwritable, -⟩ := scalar_grammar
  have hten : 10 ≤ 10 ^ Text.digitLimit := Nat.le_self_pow (by decide) 10
  -- The limit becomes a variable, so that no step computes the power.
  generalize hlimit : 10 ^ Text.digitLimit = limit at hten ⊢
  have hlarge : (int limit).isWritable = false := by
    rw [Bool.eq_false_iff, ne_eq, isWritable_int_iff, hlimit, Int.natAbs_natCast]
    exact lt_irrefl limit
  have hsmall : (int (-(limit - 1 : ℕ))).isWritable = true := by
    rw [isWritable_int_iff, hlimit]
    omega
  refine ⟨hunwritable _ hlarge, hunwritable _ ?_, ?_⟩
  · rw [Bool.eq_false_iff, ne_eq, isWritable_list_iff, List.forall_mem_singleton, hlarge]
    exact Bool.false_ne_true
  · obtain ⟨x, hx⟩ | hbad | hrefused := hother (int (-(limit - 1 : ℕ)))
    · obtain hx | ⟨s, -, hs, -⟩ := (hread _ x).mp hx
      · have heq : -(limit - 1 : ℕ) = (x.val : ℤ) := Value.int.inj hx
        omega
      · cases hs
    · obtain ⟨s, -, hs, -⟩ := (hfault _ hsmall).mp hbad
      cases hs
    · exact hrefused

end Value

end PolyCommit
