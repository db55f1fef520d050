import PolyCommit.Proofs.Value.Points
import PolyCommit.Proofs.Value.Writable

/-!
# Numerals of too many digits

Two things in a value keep a reader of scalars and points from refusing it as malformed: a text of
more digits than `Text.digitLimit`, which cannot be read as a number at all, and an integer of that
many digits, which no refusal can quote. Where neither stands in a value, every failure to read it
says that it is malformed. The second cannot come from a JSON document
(`isWritable_of_ofDocument?`).
-/

namespace PolyCommit

namespace Value

/-! ### The texts in a value -/

/-- Whether a text stands in a value: as the value, as an entry, as the name of a field, or inside
one of these. -/
inductive HasText : Value → Text → Prop
  | self (s : Text) : HasText (str s) s
  | entry {xs : List Value} {v : Value} {s : Text} (mem : v ∈ xs) (h : HasText v s) :
      HasText (list xs) s
  | name {fields : List (Text × Value)} {name : Text} {v : Value} (mem : (name, v) ∈ fields) :
      HasText (object fields) name
  | field {fields : List (Text × Value)} {name s : Text} {v : Value} (mem : (name, v) ∈ fields)
      (h : HasText v s) : HasText (object fields) s

/-- Whether a numeral of too many digits stands in a value. -/
def HasOverlong (v : Value) : Prop := ∃ s, v.HasText s ∧ s.decimal = .tooLong

/-- Texts within the limit are no such numerals. -/
theorem not_hasOverlong_of_length_le {v : Value}
    (h : ∀ s, v.HasText s → s.length ≤ Text.digitLimit) : ¬v.HasOverlong := by
  rintro ⟨s, hs, hlong⟩
  exact absurd (Text.lt_length_of_decimal_eq_tooLong hlong) (h s hs).not_gt

/-- An entry has no numeral of too many digits that the value has not: a single code point is
none. -/
theorem HasOverlong.of_mem_entries {v w : Value} {xs : List Value} (h : w.HasOverlong)
    (hxs : v.entries? = some xs) (hw : w ∈ xs) : v.HasOverlong := by
  obtain ⟨s, hs, hlong⟩ := h
  obtain ⟨c, rfl⟩ | ⟨ys, rfl, hmem⟩ | ⟨fields, name, x, rfl, hmem, rfl⟩ := entries?_cases hxs hw
  · cases hs
    exact absurd (Text.lt_length_of_decimal_eq_tooLong hlong) (by decide : ¬Text.digitLimit < 1)
  · exact ⟨s, .entry hmem hs, hlong⟩
  · cases hs
    exact ⟨s, .name hmem, hlong⟩

/-- A field has no numeral of too many digits that the object has not. -/
theorem HasOverlong.of_lookup {name : Text} {fields : List (Text × Value)} {v : Value}
    (h : v.HasOverlong) (hv : lookup name fields = some v) : (object fields).HasOverlong := by
  obtain ⟨s, hs, hlong⟩ := h
  exact ⟨s, .field (mem_of_lookup hv) hs, hlong⟩

/-- Whether every numeral in a value is short enough: no text in it spells one of too many digits,
and all of its integers can be written. -/
structure HasShortNumerals (v : Value) : Prop where
  /-- The texts spell no numeral of too many digits. -/
  texts : ¬v.HasOverlong
  /-- The integers can be written. -/
  integers : v.isWritable = true

namespace HasShortNumerals

variable {v : Value}

/-- The entries of a value with short numerals have short numerals. -/
theorem of_mem_entries (h : v.HasShortNumerals) {w : Value} {xs : List Value}
    (hxs : v.entries? = some xs) (hw : w ∈ xs) : w.HasShortNumerals :=
  ⟨fun hlong => h.texts (hlong.of_mem_entries hxs hw),
    isWritable_of_mem_entries h.integers hxs hw⟩

/-- The fields of an object with short numerals have short numerals. -/
theorem of_lookup {name : Text} {fields : List (Text × Value)}
    (h : (object fields).HasShortNumerals) (hv : lookup name fields = some v) :
    v.HasShortNumerals :=
  ⟨fun hlong => h.texts (hlong.of_lookup hv), isWritable_of_lookup h.integers hv⟩

/-- What is found by name in a value with short numerals has short numerals. -/
theorem of_field (h : v.HasShortNumerals) {name : String} {w : Value}
    (hw : v.field name = .ok w) : w.HasShortNumerals := by
  unfold field at hw
  split at hw
  · split at hw
    · next hlookup => exact Except.ok.inj hw ▸ h.of_lookup hlookup
    · cases hw
  all_goals cases hw

/-- Both entries of a pair with short numerals have short numerals. -/
theorem of_twoEntries (h : v.HasShortNumerals) {a b : Value} (hv : v.twoEntries? = some (a, b)) :
    a.HasShortNumerals ∧ b.HasShortNumerals := by
  unfold twoEntries? at hv
  split at hv
  · next hentries =>
    cases hv
    exact ⟨h.of_mem_entries hentries (by simp), h.of_mem_entries hentries (by simp)⟩
  · cases hv

/-- All four coordinates in a value with short numerals have short numerals. -/
theorem of_fourEntries (h : v.HasShortNumerals) {a0 a1 b0 b1 : Value}
    (hv : v.fourEntries? = some (a0, a1, b0, b1)) :
    ∀ w ∈ [a0, a1, b0, b1], w.HasShortNumerals := by
  obtain ⟨⟨a, b⟩, hab, hv⟩ := Option.bind_eq_some_iff.mp hv
  obtain ⟨⟨x0, x1⟩, ha, hv⟩ := Option.bind_eq_some_iff.mp hv
  obtain ⟨⟨y0, y1⟩, hb, hv⟩ := Option.bind_eq_some_iff.mp hv
  cases hv
  have hxs := (h.of_twoEntries hab).1.of_twoEntries ha
  have hys := (h.of_twoEntries hab).2.of_twoEntries hb
  simpa using ⟨hxs.1, hxs.2, hys.1, hys.2⟩

end HasShortNumerals

end Value

/-! ### Failures of readers -/

/-- Whether a failure to read a value comes of the value: the value is malformed, or one of its
numerals has too many digits to be read or to be quoted. -/
def Failure.ComesOf (v : Value) (f : Failure) : Prop :=
  f.IsMalformed ∨ f = .badValue ∧ ¬v.HasShortNumerals

section ComesOf

variable {α : Type} {v w : Value} {x : Except Failure α}

/-- A value that is refused as malformed where it can be quoted fails for no other reason. -/
theorem Failure.comesOf_quoting {reason : Malformed} (h : reason.isWritable = v.isWritable) :
    (quoting (.malformed reason)).ComesOf v := by
  refine (quoting_malformed reason).imp_right fun ⟨hbad, hunwritable⟩ => ⟨hbad, fun hv => ?_⟩
  rw [h, hv.integers] at hunwritable
  cases hunwritable

/-- A failure to read a part of a value comes of the value. -/
theorem Fails.of_part (h : Fails (Failure.ComesOf w) x)
    (hpart : v.HasShortNumerals → w.HasShortNumerals) : Fails (Failure.ComesOf v) x :=
  h.imp fun _ hf => hf.imp_right fun ⟨hbad, hw⟩ => ⟨hbad, fun hv => hw (hpart hv)⟩

/-- A value with short numerals fails to be read only as malformed. -/
theorem Fails.isMalformed (h : Fails (Failure.ComesOf v) x) (hv : v.HasShortNumerals) :
    Fails Failure.IsMalformed x :=
  h.imp fun _ hf => hf.resolve_right fun ⟨_, hlong⟩ => hlong hv

/-- A value with short numerals is refused if it cannot be read. -/
theorem Fails.isRefused (h : Fails (Failure.ComesOf v) x) (hv : v.HasShortNumerals) :
    Fails Failure.IsRefused x :=
  (h.isMalformed hv).imp Failure.IsMalformed.isRefused

end ComesOf

namespace Value

/-- A failure to read a number comes of the value. -/
theorem fails_toDecimal (v : Value) : Fails (Failure.ComesOf v) (toDecimal v) := by
  unfold toDecimal
  split
  · exact .ok
  · next s =>
    split
    · exact .ok
    · next hlong => exact .error (.inr ⟨rfl, fun h => h.texts ⟨s, .self s, hlong⟩⟩)
    · exact .error (Failure.comesOf_quoting rfl)
  · exact .error (Failure.comesOf_quoting rfl)

/-- A failure to read a residue comes of the value, if the refusal quotes the value. -/
theorem fails_toResidue {n : ℕ} {refusal : Malformed} {v : Value}
    (hrefusal : refusal.isWritable = v.isWritable) :
    Fails (Failure.ComesOf v) (toResidue n refusal v) := by
  refine .bind (fails_toDecimal v) fun k _ => ?_
  split
  · split
    · exact .ok
    · exact .error (Failure.comesOf_quoting hrefusal)
  · exact .error (Failure.comesOf_quoting hrefusal)

/-- A failure to read a scalar comes of the value. -/
theorem fails_toScalar (v : Value) : Fails (Failure.ComesOf v) (toScalar v) :=
  fails_toResidue rfl

/-- A failure to read a coordinate comes of the value. -/
theorem fails_toCoordinate (v : Value) : Fails (Failure.ComesOf v) (toCoordinate v) :=
  fails_toResidue rfl

/-- A failure to read a polynomial comes of the value. -/
theorem fails_toPoly (v : Value) : Fails (Failure.ComesOf v) (toPoly v) := by
  unfold toPoly
  split
  · exact .mapM fun w hw => (fails_toScalar w).of_part fun hv => hv.of_mem_entries rfl hw
  · exact .error (Failure.comesOf_quoting rfl)

variable {T : Type} (E : PairingSystem T)

/-- A failure to read a point of the first group comes of the value. -/
theorem fails_toPoint₁ (v : Value) : Fails (Failure.ComesOf v) (toPoint₁ E v) := by
  unfold toPoint₁
  split
  · exact .ok
  · next a b =>
    have hentry {w : Value} (hw : w ∈ [a, b]) :
        Fails (Failure.ComesOf (list [a, b])) (toCoordinate w) :=
      (fails_toCoordinate w).of_part fun hv => hv.of_mem_entries rfl hw
    refine .bind (hentry (by simp)) fun x _ => .bind (hentry (by simp)) fun y _ => ?_
    split
    · exact .ok
    · exact .error (.inl ⟨_, rfl⟩)
  · exact .error (Failure.comesOf_quoting rfl)

/-- A failure to read a point of the second group comes of the value. -/
theorem fails_toPoint₂ (v : Value) : Fails (Failure.ComesOf v) (toPoint₂ E v) := by
  unfold toPoint₂
  split
  · exact .ok
  · split
    · exact .error (Failure.comesOf_quoting rfl)
    · next a0 a1 b0 b1 hfour =>
      have hentry {w : Value} (hw : w ∈ [a0, a1, b0, b1]) :
          Fails (Failure.ComesOf v) (toCoordinate w) :=
        (fails_toCoordinate w).of_part fun hv => hv.of_fourEntries hfour w hw
      refine .bind (hentry (by simp)) fun x0 _ => .bind (hentry (by simp)) fun x1 _ => ?_
      refine .bind (hentry (by simp)) fun y0 _ => .bind (hentry (by simp)) fun y1 _ => ?_
      dsimp only
      split
      · exact .ok
      · exact .error (.inl ⟨_, rfl⟩)

end Value

end PolyCommit
