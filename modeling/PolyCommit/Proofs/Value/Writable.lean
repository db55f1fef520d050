import PolyCommit.Proofs.Text.Numeral
import PolyCommit.Value.Document
import PolyCommit.Value.Points

/-!
# Values of documents can be written

A refusal quotes the value that it refuses, and an integer of too many digits has no numeral to
quote. The reader of documents gives up at such an integer, so whatever it reads can be quoted. The
readers of values, of entries and of fields call each other, and one induction on the number of
calls serves all three. What stands in a value that can be written can be written too.
-/

namespace PolyCommit

namespace Text

/-- A number that is read from digits within the limit is below its power of ten. -/
theorem lt_pow_of_ofDigits_eq_number {ds : List ℕ} {n : ℕ} (hds : ∀ d ∈ ds, d < 10)
    (h : Reading.ofDigits ds = .number n) : n < 10 ^ digitLimit := by
  rw [Reading.ofDigits] at h
  split at h
  · cases h
  · next hlength =>
    rw [← Reading.number.inj h, ofDigits_eq]
    calc Nat.ofDigits 10 ds.reverse
        < 10 ^ ds.reverse.length := Nat.ofDigits_lt_base_pow_length (by decide) (by simpa using hds)
      _ ≤ 10 ^ digitLimit := by
        rw [List.length_reverse]
        exact Nat.pow_le_pow_right (by decide) (Nat.not_lt.mp hlength)

/-- The values of ASCII digits are below ten. -/
theorem lt_ten_of_mem_digitValues {s : Text} (h : ∀ c ∈ s, c.isAsciiDigit = true) :
    ∀ d ∈ s.digitValues, d < 10 := by
  intro d hd
  obtain ⟨c, hc, rfl⟩ := List.mem_map.mp hd
  have hdigit := h c hc
  rw [CodePoint.isAsciiDigit, Bool.and_eq_true, decide_eq_true_eq, decide_eq_true_eq] at hdigit
  omega

end Text

namespace Value

/-- The integers of at most as many digits as the limit can be written. -/
theorem isWritable_int_iff {k : ℤ} :
    (int k).isWritable = true ↔ k.natAbs < 10 ^ Text.digitLimit := by
  change decide (k.natAbs < 10 ^ Text.digitLimit) = true ↔ _
  exact decide_eq_true_iff

/-! ### Parts of a value -/

/-- A list can be written when its entries can. -/
theorem isWritable_list_iff {xs : List Value} :
    (list xs).isWritable = true ↔ ∀ v ∈ xs, v.isWritable = true := by
  change listWritable xs = true ↔ _
  induction xs with
  | nil => exact iff_of_true rfl nofun
  | cons v xs ih => rw [listWritable, Bool.and_eq_true, ih, List.forall_mem_cons]

/-- An object can be written when the values of its fields can. -/
theorem isWritable_object_iff {fields : List (Text × Value)} :
    (object fields).isWritable = true ↔ ∀ field ∈ fields, field.2.isWritable = true := by
  change fieldsWritable fields = true ↔ _
  induction fields with
  | nil => exact iff_of_true rfl nofun
  | cons field fields ih => rw [fieldsWritable, Bool.and_eq_true, ih, List.forall_mem_cons]

/-- An entry is a code point of a text, an entry of a list, or the name of a field of an object. -/
theorem entries?_cases {v w : Value} {xs : List Value} (hxs : v.entries? = some xs) (hw : w ∈ xs) :
    (∃ c, w = str [c]) ∨ (∃ ys, v = list ys ∧ w ∈ ys) ∨
      ∃ fields name x, v = object fields ∧ (name, x) ∈ fields ∧ w = str name := by
  unfold entries? at hxs
  split at hxs
  · cases hxs
    obtain ⟨c, -, rfl⟩ := List.mem_map.mp hw
    exact .inl ⟨c, rfl⟩
  · cases hxs
    exact .inr (.inl ⟨xs, rfl, hw⟩)
  · cases hxs
    obtain ⟨⟨name, x⟩, hfield, rfl⟩ := List.mem_map.mp hw
    exact .inr (.inr ⟨_, name, x, rfl, hfield, rfl⟩)
  · cases hxs

/-- The entries of a value that can be written can be written. -/
theorem isWritable_of_mem_entries {v w : Value} {xs : List Value} (h : v.isWritable = true)
    (hxs : v.entries? = some xs) (hw : w ∈ xs) : w.isWritable = true := by
  obtain ⟨c, rfl⟩ | ⟨ys, rfl, hmem⟩ | ⟨fields, name, x, -, -, rfl⟩ := entries?_cases hxs hw
  · rfl
  · exact isWritable_list_iff.mp h w hmem
  · rfl

/-- A field that is found is one of the fields. -/
theorem mem_of_lookup {name : Text} {fields : List (Text × Value)} {v : Value}
    (h : lookup name fields = some v) : (name, v) ∈ fields := by
  induction fields with
  | nil => cases h
  | cons field rest ih =>
    rw [lookup] at h
    split at h
    · next hname => exact List.mem_cons.mpr (.inl (Prod.ext hname.symm (Option.some.inj h).symm))
    · exact List.mem_cons_of_mem field (ih h)

/-- The fields of an object that can be written can be written. -/
theorem isWritable_of_lookup {name : Text} {fields : List (Text × Value)} {v : Value}
    (h : (object fields).isWritable = true) (hv : lookup name fields = some v) :
    v.isWritable = true :=
  isWritable_object_iff.mp h _ (mem_of_lookup hv)

namespace Reader

/-! ### What a reader takes off a text -/

variable {α β : Type} {p : α → Prop} {q : β → Prop}

/-- Whether whatever a reader takes off the front of a text has a property. -/
def Reads (p : α → Prop) (result : Option (α × Text)) : Prop :=
  ∀ a rest, result = some (a, rest) → p a

/-- A reader that takes nothing takes only what it should. -/
theorem Reads.none : Reads p none := nofun

/-- A reader that takes a thing with the property takes only what it should. -/
theorem Reads.some {a : α} {rest : Text} (h : p a) : Reads p (some (a, rest)) := by
  intro b _ heq
  rw [← (Prod.mk.inj (Option.some.inj heq)).1]
  exact h

/-- A second reader may rely on what the first takes. -/
theorem Reads.bind {x : Option (α × Text)} {f : α × Text → Option (β × Text)} (hx : Reads p x)
    (hf : ∀ a rest, p a → Reads q (f (a, rest))) : Reads q (x >>= f) := by
  intro b rest h
  obtain ⟨⟨a, s⟩, hxa, h⟩ := Option.bind_eq_some_iff.mp h
  exact hf a s (hx a s hxa) b rest h

/-- Whatever a reader takes is something. -/
theorem Reads.any {x : Option (α × Text)} : Reads (fun _ => True) x := fun _ _ _ => trivial

/-! ### Numbers and words -/

/-- The whole part of a number consists of digits. -/
theorem reads_whole (s : Text) :
    Reads (fun digits => ∀ c ∈ digits, c.isAsciiDigit = true) (whole s) := by
  have hall : ∀ c ∈ s.takeWhile CodePoint.isAsciiDigit, c.isAsciiDigit = true :=
    List.all_eq_true.mp List.all_takeWhile
  rw [whole]
  split
  · exact .none
  · next d _ heq =>
    split
    · rw [heq] at hall
      exact .some (by simpa using hall d List.mem_cons_self)
    · exact .some hall

/-- A number that is read can be written. -/
theorem reads_number (s : Text) : Reads (fun v => v.isWritable = true) (number s) := by
  rw [number.eq_def]
  refine (reads_whole _).bind fun digits rest hdigits => ?_
  dsimp only
  split
  · split
    · next n hn =>
      have hlt := Text.lt_pow_of_ofDigits_eq_number (Text.lt_ten_of_mem_digitValues hdigits) hn
      exact .some (isWritable_int_iff.mpr (by split <;> omega))
    · exact .none
  · exact .some rfl

/-- A word or number that is read can be written. -/
theorem reads_simple (s : Text) : Reads (fun v => v.isWritable = true) (simple s) := by
  rw [simple]
  split
  iterate 3 exact .some rfl
  split
  iterate 3 exact .some rfl
  exact reads_number s

end Reader

/-! ### Values -/

/-- Fields can be written after one is set to a value that can. -/
theorem fieldsWritable_setField {name : Text} {v : Value} {fields : List (Text × Value)}
    (hv : v.isWritable = true) (h : fieldsWritable fields = true) :
    fieldsWritable (setField name v fields) = true := by
  induction fields with
  | nil => simp only [setField, fieldsWritable, hv, Bool.and_true]
  | cons field rest ih =>
    rw [fieldsWritable, Bool.and_eq_true] at h
    rw [setField]
    split
    · simp only [fieldsWritable, hv, h.2, Bool.and_true]
    · simp only [fieldsWritable, h.1, ih h.2, Bool.and_true]

namespace Reader

/-- Whether the readers with a bound on the number of calls take only what can be written. -/
structure ReadsWritable (steps : ℕ) : Prop where
  value (s : Text) : Reads (fun v => v.isWritable = true) (Reader.value steps s)
  items (s : Text) : Reads (fun xs => listWritable xs = true) (Reader.items steps s)
  fields (before : List (Text × Value)) (s : Text) (h : fieldsWritable before = true) :
    Reads (fun all => fieldsWritable all = true) (Reader.fields steps before s)

variable {steps : ℕ}

/-- One more call for values, by the kind of the first code point. -/
theorem ReadsWritable.value_succ (ih : ReadsWritable steps) (s : Text) :
    Reads (fun v => v.isWritable = true) (Reader.value (steps + 1) s) := by
  cases s with
  | nil => exact .none
  | cons c s =>
    rw [Reader.value]
    split
    · exact Reads.any.bind fun _ _ _ => .some rfl
    split
    · split
      · exact .none
      split
      · exact .some rfl
      · exact (ih.items _).bind fun _ _ hxs => .some hxs
    split
    · split
      · exact .none
      split
      · exact .some rfl
      · exact (ih.fields [] _ rfl).bind fun _ _ hfields => .some hfields
    · exact reads_simple _

/-- One more call for entries. -/
theorem ReadsWritable.items_succ (ih : ReadsWritable steps) (s : Text) :
    Reads (fun xs => listWritable xs = true) (Reader.items (steps + 1) s) := by
  rw [Reader.items]
  refine (ih.value s).bind fun v rest hv => ?_
  dsimp only
  split
  · exact .none
  split
  · exact .some (by simp only [listWritable, hv, Bool.and_true])
  split
  · exact (ih.items _).bind fun xs _ hxs =>
      .some (by simp only [listWritable, hv, hxs, Bool.and_true])
  · exact .none

/-- One more call for fields. -/
theorem ReadsWritable.fields_succ (ih : ReadsWritable steps) (before : List (Text × Value))
    (s : Text) (h : fieldsWritable before = true) :
    Reads (fun all => fieldsWritable all = true) (Reader.fields (steps + 1) before s) := by
  cases s with
  | nil => exact .none
  | cons c s =>
    rw [Reader.fields]
    split
    · refine Reads.any.bind fun name rest _ => ?_
      dsimp only
      split
      · exact .none
      split
      · refine (ih.value _).bind fun v rest hv => ?_
        dsimp only
        split
        · exact .none
        split
        · exact .some (fieldsWritable_setField hv h)
        split
        · exact ih.fields _ _ (fieldsWritable_setField hv h)
        · exact .none
      · exact .none
    · exact .none

/-- All three readers take only what can be written, however many calls they have. -/
theorem readsWritable (steps : ℕ) : ReadsWritable steps := by
  induction steps with
  | zero => exact ⟨fun _ => .none, fun _ => .none, fun _ _ _ => .none⟩
  | succ steps ih => exact ⟨ih.value_succ, ih.items_succ, ih.fields_succ⟩

end Reader

/-- No integer in the value of a document has too many digits. -/
theorem isWritable_of_ofDocument? {bytes : List UInt8} {v : Value}
    (h : ofDocument? bytes = some v) : v.isWritable = true := by
  obtain ⟨s, -, h⟩ := Option.bind_eq_some_iff.mp h
  obtain ⟨⟨w, rest⟩, hvalue, h⟩ := Option.bind_eq_some_iff.mp h
  dsimp only at h
  split at h
  · rw [← Option.some.inj h]
    exact (Reader.readsWritable _).value _ _ _ hvalue
  · cases h

end Value

end PolyCommit
