import PolyCommit.Polynomial.Input
import PolyCommit.Proofs.Outcome

/-!
# Reading polynomials

When the checks on a caller's degree and coefficients pass, and what they return: the scalars that
the first coefficients stand for, one for each.
-/

namespace PolyCommit

/-- Only an integer is one. -/
theorem Value.integer?_eq_some_iff {v : Value} {d : Int} : v.integer? = some d ↔ v = .int d := by
  cases v with
  | int k => exact ⟨fun h => congrArg _ (Option.some.inj h), fun h => congrArg _ (Value.int.inj h)⟩
  | _ => exact iff_of_false nofun nofun

/-- The scalar that a value stands for is that of the number that it is. -/
theorem Value.toFr_eq_ok_iff {v : Value} {c : Fr} :
    v.toFr = .ok c ↔ ∃ n, v.number? = some n ∧ n.toFr = c := by
  unfold Value.toFr Value.number
  cases v.number? with
  | none => exact iff_of_false nofun nofun
  | some n =>
    exact ⟨fun h => ⟨n, rfl, Except.ok.inj h⟩, fun ⟨m, hm, hc⟩ => by cases hm; rw [← hc]; rfl⟩

namespace Poly

/-- Whether values stand for the coefficients of a polynomial, one by one. -/
def StandFor (xs : List Value) (p : Poly) : Prop := List.Forall₂ (fun v c => v.toFr = .ok c) xs p

/-- A list of numbers stands for a polynomial. -/
theorem exists_standFor {xs : List Value} (h : ∀ v ∈ xs, v.number?.isSome) :
    ∃ p, StandFor xs p := by
  have hscalar (v : Value) (hv : v ∈ xs) : ∃ c, v.toFr = .ok c := by
    obtain ⟨n, hn⟩ := Option.isSome_iff_exists.mp (h v hv)
    exact ⟨n.toFr, Value.toFr_eq_ok_iff.mpr ⟨n, hn, rfl⟩⟩
  obtain ⟨p, hp⟩ := exists_mapM_eq_ok hscalar
  exact ⟨p, mapM_eq_ok_iff.mp hp⟩

/-- As many values as coefficients. -/
theorem StandFor.length_eq {xs : List Value} {p : Poly} (h : StandFor xs p) :
    xs.length = p.length :=
  List.Forall₂.length_eq h

/-- There are coefficients when there are values. -/
theorem StandFor.ne_nil_iff {xs : List Value} {p : Poly} (h : StandFor xs p) :
    p ≠ [] ↔ xs ≠ [] := by
  rw [← List.length_pos_iff, ← h.length_eq, List.length_pos_iff]

/-- Values stand for coefficients piece by piece. -/
theorem StandFor.append {xs ys : List Value} {p q : Poly} (hxs : StandFor xs p)
    (hys : StandFor ys q) : StandFor (xs ++ ys) (p ++ q) :=
  List.rel_append hxs hys

/-- As many values as are read, if they are there, are as many coefficients. -/
theorem StandFor.length_eq_of_take {xs : List Value} {p : Poly} {n : ℕ}
    (h : StandFor (xs.take n) p) (hn : n ≤ xs.length) : p.length = n := by
  rw [← h.length_eq, List.length_take, Nat.min_eq_left hn]

/-- Reading as many values as there are, or more, reads all of them. -/
theorem StandFor.take_of_length_le {xs : List Value} {p : Poly} (h : StandFor xs p) {n : ℕ}
    (hn : xs.length ≤ n) : StandFor (xs.take n) p := by
  rwa [List.take_of_length_le hn]

/-- Values that are zero stand for zeros. -/
theorem standFor_replicate_zero {zeros : List Value} (h : ∀ v ∈ zeros, v.toFr = .ok 0) :
    StandFor zeros (List.replicate zeros.length 0) := by
  induction zeros with
  | nil => exact .nil
  | cons v zeros ih =>
    exact .cons (h v List.mem_cons_self) (ih fun w hw => h w (List.mem_cons_of_mem v hw))

/-- Scalars stand for themselves. -/
theorem standFor_scalar (p : Poly) : StandFor (p.map .scalar) p :=
  List.forall₂_map_left_iff.mpr (List.forall₂_same.mpr fun _ _ => rfl)

/-- A coefficient is the scalar that a value stands for. -/
theorem coefficient_eq_ok_iff {v : Value} {c : Fr} : coefficient v = .ok c ↔ v.toFr = .ok c := by
  rw [Value.toFr_eq_ok_iff, coefficient]
  cases v.number? with
  | none => exact iff_of_false nofun nofun
  | some n =>
    exact ⟨fun h => ⟨n, rfl, Except.ok.inj h⟩, fun ⟨m, hm, hc⟩ => by cases hm; rw [← hc]⟩

/-- A list is read as the polynomial that it stands for. -/
theorem ofValue_list_eq_ok_iff {xs : List Value} {p : Poly} :
    ofValue (.list xs) = .ok p ↔ StandFor xs p :=
  mapM_eq_ok_iff.trans (by simp only [coefficient_eq_ok_iff, StandFor])

/-- An integer from the least degree on passes. -/
theorem degree_int {least n : ℕ} (h : least ≤ n) : degree least (.int n) = .ok n :=
  if_neg (by omega)

/-- What is no integer is no degree. -/
theorem degree_of_none {least : ℕ} {v : Value} (h : v.integer? = none) :
    degree least v = .error (.quoting (.degree (.notInteger v))) := by
  rw [degree, h]

/-- A degree below the least one is refused. -/
theorem degree_below {least : ℕ} {d : Int} (h : d < least) :
    degree least (.int d) = .error (.quoting (.degree (.below least d))) :=
  if_pos h

/-- The degrees that pass are the integers from the least one on. -/
theorem degree_eq_ok_iff {least n : ℕ} {v : Value} :
    degree least v = .ok n ↔ v = .int n ∧ least ≤ n := by
  refine ⟨fun h => ?_, fun ⟨hv, hn⟩ => hv ▸ degree_int hn⟩
  cases v with
  | int d =>
    by_cases hd : d < least
    · rw [degree_below hd] at h
      cases h
    · obtain ⟨m, rfl⟩ := Int.eq_ofNat_of_zero_le (show 0 ≤ d by omega)
      rw [degree_int (by omega)] at h
      obtain rfl := Except.ok.inj h
      exact ⟨rfl, by omega⟩
  | _ => cases h

/-- The first coefficients are there, and no others have to be numbers. -/
theorem firstCoefficients_list_eq_ok_iff {xs : List Value} {p : Poly} {n : ℕ} :
    firstCoefficients (.list xs) n = .ok p ↔ n ≤ xs.length ∧ StandFor (xs.take n) p := by
  rw [← ofValue_list_eq_ok_iff]
  simp only [firstCoefficients, Value.length?]
  split
  · next hshort => exact iff_of_false nofun fun h => Nat.not_lt.mpr h.1 hshort
  · next hlength => exact ⟨fun h => ⟨Nat.not_lt.mp hlength, h⟩, And.right⟩

/-- The first coefficients are read if they are there and stand for scalars. -/
theorem firstCoefficients_list {xs : List Value} {p : Poly} {n : ℕ} (hn : n ≤ xs.length)
    (hp : StandFor (xs.take n) p) : firstCoefficients (.list xs) n = .ok p :=
  firstCoefficients_list_eq_ok_iff.mpr ⟨hn, hp⟩

/-- A polynomial that is too short is refused. -/
theorem firstCoefficients_of_lt {xs : List Value} {n : ℕ} (h : xs.length < n) :
    firstCoefficients (.list xs) n =
      .error (.quoting (.malformed (.shortPolynomial xs.length n))) := by
  simp only [firstCoefficients, Value.length?, if_pos h]
  rfl

/-- A polynomial that is too short is refused, if its degree can be quoted, and so are coefficients
that are no numbers. -/
theorem fails_firstCoefficients {xs : List Value} {n : ℕ}
    (h : xs.length < n → (Value.int n).isWritable = true) :
    Fails Failure.IsMalformed (firstCoefficients (.list xs) n) := by
  rcases Nat.lt_or_ge xs.length n with hlt | hge
  · have hwritable : (Refusal.malformed (.shortPolynomial xs.length n)).isWritable = true := h hlt
    rw [firstCoefficients_of_lt hlt, Failure.quoting_eq hwritable]
    exact .error ⟨_, rfl⟩
  · simp only [firstCoefficients, Value.length?, if_neg (Nat.not_lt.mpr hge)]
    refine .mapM fun v _ => ?_
    unfold coefficient
    split
    · exact .ok
    · exact .error ⟨_, rfl⟩

/-- Entries past the first `n` are not looked at. -/
theorem firstCoefficients_congr {xs ys : List Value} {n : ℕ} (h : ys.take n = xs.take n) :
    firstCoefficients (.list ys) n = firstCoefficients (.list xs) n := by
  have hlength := congrArg List.length h
  rw [List.length_take, List.length_take] at hlength
  rcases Nat.lt_or_ge ys.length n with hlt | hge
  · rw [List.take_of_length_le (by omega), List.take_of_length_le (by omega)] at h
    rw [h]
  · have hxs : ¬xs.length < n := by omega
    simp only [firstCoefficients, Value.length?, if_neg (Nat.not_lt.mpr hge), if_neg hxs, h]

/-- Each of the values stands for a scalar. -/
theorem StandFor.exists_toFr {xs : List Value} {p : Poly} (h : StandFor xs p) {v : Value}
    (hv : v ∈ xs) : ∃ c, v.toFr = .ok c := by
  obtain ⟨i, hi, rfl⟩ := List.getElem_of_mem hv
  exact ⟨_, List.Forall₂.get h hi (h.length_eq ▸ hi)⟩

/-- Values that stand for scalars have a product as terms. -/
theorem discard_product {v w : Value} {c d : Fr} (hv : v.toFr = .ok c) (hw : w.toFr = .ok d) :
    discard (v.product w) = .ok () := by
  obtain ⟨m, hm, -⟩ := Value.toFr_eq_ok_iff.mp hv
  obtain ⟨n, hn, -⟩ := Value.toFr_eq_ok_iff.mp hw
  simp only [Value.product, hm, hn]
  rfl

/-- Factors with coefficients have a product. -/
theorem product_list {xs ys : List Value} {p q : Poly} (hxs : StandFor xs p) (hys : StandFor ys q)
    (hp : p ≠ []) (hq : q ≠ []) : product (.list xs) (.list ys) = .ok (mul p q) := by
  have hterms : (xs.forM fun x => ys.forM fun y => discard (x.product y)) = .ok () :=
    forM_eq_ok fun x hx => forM_eq_ok fun y hy => by
      obtain ⟨c, hc⟩ := hxs.exists_toFr hx
      obtain ⟨d, hd⟩ := hys.exists_toFr hy
      exact discard_product hc hd
  have hxs' : xs.mapM Value.toFr = .ok p := mapM_eq_ok_iff.mpr hxs
  have hys' : ys.mapM Value.toFr = .ok q := mapM_eq_ok_iff.mpr hys
  have hblank : ((Value.list xs).isBlank || (Value.list ys).isBlank) = false :=
    Bool.or_eq_false_iff.mpr ⟨List.isEmpty_eq_false_iff.mpr (hxs.ne_nil_iff.mp hp),
      List.isEmpty_eq_false_iff.mpr (hys.ne_nil_iff.mp hq)⟩
  simp only [product, hblank, Bool.false_eq_true, if_false, factorEntries, Value.entries?,
    Option.elim_some, ok_bind, hterms, hxs', hys']
  rfl

/-- A factor without coefficients is refused. -/
theorem product_of_empty {xs ys : List Value} (h : xs = [] ∨ ys = []) :
    product (.list xs) (.list ys) = .error (.malformed .emptyFactor) := by
  have hblank : ((Value.list xs).isBlank || (Value.list ys).isBlank) = true := by
    rcases h with rfl | rfl
    · rfl
    · exact Bool.or_true _
  simp only [product, hblank, if_true]
  rfl

/-- The value at a point is that of the coefficients that the degree reads. -/
theorem evaluate_list_eq_map {xs : List Value} {p : Poly} {n : ℕ} (hn : n ≤ xs.length)
    (hp : StandFor (xs.take n) p) (point : Value) :
    evaluate (.list xs) point (.int n) = p.eval <$> point.toFr := by
  rw [evaluate, degree_int (Nat.zero_le n), ok_bind, firstCoefficients_list hn hp, ok_bind]
  rfl

/-- The value at a point that is a number. -/
theorem evaluate_list_of_toFr {xs : List Value} {p : Poly} {n : ℕ} (hn : n ≤ xs.length)
    (hp : StandFor (xs.take n) p) {point : Value} {z : Fr} (hz : point.toFr = .ok z) :
    evaluate (.list xs) point (.int n) = .ok (p.eval z) := by
  rw [evaluate_list_eq_map hn hp, hz]
  rfl

/-- The value at a scalar. -/
theorem evaluate_list {xs : List Value} {p : Poly} {n : ℕ} (hn : n ≤ xs.length)
    (hp : StandFor (xs.take n) p) (z : Fr) :
    evaluate (.list xs) (.scalar z) (.int n) = .ok (p.eval z) :=
  evaluate_list_of_toFr hn hp rfl

/-- The value of all coefficients. -/
theorem evaluate_all {xs : List Value} {p : Poly} (hxs : StandFor xs p) {point : Value} {z : Fr}
    (hz : point.toFr = .ok z) : evaluate (.list xs) point (.int p.length) = .ok (p.eval z) := by
  have hlength := hxs.length_eq
  exact evaluate_list_of_toFr (Nat.le_of_eq hlength.symm)
    (hxs.take_of_length_le (Nat.le_of_eq hlength)) hz

/-- A dividend with two coefficients or more has a quotient and a remainder. -/
theorem quotient_list {xs : List Value} {p : Poly} (hxs : StandFor xs p) (hlength : 2 ≤ p.length)
    {point : Value} {z : Fr} (hz : point.toFr = .ok z) :
    quotient (.list xs) point = .ok (p.divide z) := by
  have hmap : xs.mapM Value.toFr = .ok p := mapM_eq_ok_iff.mpr hxs
  rw [← hxs.length_eq] at hlength
  simp only [quotient, Value.length?, if_neg (Nat.not_lt.mpr hlength), hz, strictCoefficients, hmap]
  rfl

end Poly

end PolyCommit
