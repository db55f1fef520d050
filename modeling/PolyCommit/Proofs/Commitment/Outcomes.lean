import PolyCommit.Proofs.Commitment.Opening
import PolyCommit.Proofs.Value.Writable

/-!
# Every outcome of committing, evaluating and opening

The three algorithms share one row of checks: the degree against the least one, the degree against
the key, the coefficients that the degree reads, and the point. The first check that fails decides
the outcome, if it can quote the degree that it refuses. After all of them nothing can fail: the
window keeps within the coefficients and the powers of the key, whatever points these are, and the
remainder of an opening is zero. Coefficients past the degree are never looked at.
-/

namespace PolyCommit

/-- How a computation ends: with a value, with a refusal of some kind, or with a fault. -/
inductive Outcome
  | value
  | refused (kind : String)
  | fault (fault : Fault)
  deriving DecidableEq

namespace Outcome

variable {α : Type}

/-- The outcome of a computation. -/
def of : Except Failure α → Outcome
  | .ok _ => value
  | .error (.refused r) => refused r.kind
  | .error (.fault f) => fault f

/-- The outcome that the arguments decide. `least` is the least degree, `size` the number of powers
of the key, and `point` the point, where an algorithm has them. -/
def expected (least : ℕ) (size : Option ℕ) (xs : List Value) (point : Option Value) :
    Value → Outcome
  | .int d =>
    if d < least then refused "InvalidDegree"
    else if ∃ s ∈ size, s < d.toNat then refused "DegreeExceedsSRS"
    else if xs.length < d.toNat ∨ ∃ v ∈ xs.take d.toNat, v.number? = none then
      refused "MalformedInput"
    else if ∃ v ∈ point, v.number? = none then fault .wrongKind
    else value
  | _ => refused "InvalidDegree"

/-! ### One check after the other -/

/-- Whether a refusal can quote a degree: it has no integer of too many digits, or it counts entries
of the list. -/
def IsQuotable (xs : List Value) (degree : Value) : Prop :=
  degree.isWritable = true ∨ ∃ n : ℕ, n ≤ xs.length ∧ degree = .int n

/-- A number that can be quoted can be written, unless it counts entries of the list. -/
theorem IsQuotable.isWritable_of_length_lt {xs : List Value} {n : ℕ} (h : IsQuotable xs (.int n))
    (hn : xs.length < n) : (Value.int n).isWritable = true := by
  refine h.resolve_right ?_
  rintro ⟨m, hm, heq⟩
  cases heq
  omega

/-- An integer that can be quoted can be written, if it is below a small number. -/
theorem IsQuotable.isWritable_of_lt {xs : List Value} {d : ℤ} {least : ℕ}
    (h : IsQuotable xs (.int d)) (hleast : least ≤ 2) (hd : d < least) :
    (Value.int d).isWritable = true := by
  obtain hwritable | ⟨n, -, heq⟩ := h
  · exact hwritable
  · cases heq
    have hten : 10 ≤ 10 ^ Text.digitLimit := Nat.le_self_pow (by decide) 10
    rw [Value.isWritable_int_iff, Int.natAbs_natCast]
    omega

/-- An integer of too many digits counts no entries of a list of fewer. -/
theorem not_isQuotable {xs : List Value} {degree : Value} (h : degree.isWritable = false)
    (hxs : xs.length < 10 ^ Text.digitLimit) : ¬IsQuotable xs degree := by
  rintro (hwritable | ⟨n, hn, rfl⟩)
  · exact absurd (h.symm.trans hwritable) Bool.false_ne_true
  · have hlarge : (Value.int n).isWritable = true := Value.isWritable_int_iff.mpr (hn.trans_lt hxs)
    exact absurd (h.symm.trans hlarge) Bool.false_ne_true

/-- A value that is no integer is refused as a degree. -/
theorem of_degree_bind_of_none {least : ℕ} {f : ℕ → Except Failure α} {v : Value}
    (hv : v.integer? = none) (hwritable : v.isWritable = true) :
    of (Poly.degree least v >>= f) = refused "InvalidDegree" := by
  have hrefusal : (Refusal.degree (.notInteger v)).isWritable = true := hwritable
  rw [Poly.degree_of_none hv, Failure.quoting_eq hrefusal]
  rfl

/-- The check of a degree, and what follows it. -/
theorem of_degree_bind {least : ℕ} {f : ℕ → Except Failure α} {rest : ℕ → Outcome}
    {xs : List Value} (hleast : least ≤ 2) (v : Value) :
    IsQuotable xs v → (∀ n : ℕ, v = .int n → least ≤ n → of (f n) = rest n) →
      of (Poly.degree least v >>= f) =
        match v with
        | .int d => if d < least then refused "InvalidDegree" else rest d.toNat
        | _ => refused "InvalidDegree" := by
  intro hquote h
  cases v with
  | int d =>
    by_cases hd : d < least
    · have hrefusal : (Refusal.degree (.below least d)).isWritable = true :=
        hquote.isWritable_of_lt hleast hd
      rw [Poly.degree_below hd, Failure.quoting_eq hrefusal]
      exact (if_pos hd).symm
    · obtain ⟨n, rfl⟩ := Int.eq_ofNat_of_zero_le (show 0 ≤ d by omega)
      rw [Poly.degree_int (by omega), ok_bind, h n rfl (by omega)]
      exact (if_neg hd).symm
  | _ => exact of_degree_bind_of_none rfl (hquote.resolve_right nofun)

/-- The check of a degree against the number of powers of a key, if there is one. -/
def withinSize (poly : Value) (n : ℕ) : Option ℕ → Except Failure Unit
  | some size => PairingSystem.checkSize size poly n
  | none => .ok ()

/-- A degree within the size passes. -/
theorem withinSize_of_le {n : ℕ} {size : Option ℕ} (h : ∀ s ∈ size, n ≤ s) (poly : Value) :
    withinSize poly n size = .ok () := by
  cases size with
  | none => rfl
  | some s => exact PairingSystem.checkSize_of_le (h s rfl) poly

/-- Entries past the degree do not matter to the check. -/
theorem withinSize_congr {xs ys : List Value} {n : ℕ} (h : ys.take n = xs.take n)
    (size : Option ℕ) : withinSize (.list ys) n size = withinSize (.list xs) n size := by
  have hlength := congrArg List.length h
  rw [List.length_take, List.length_take] at hlength
  have hany : (Value.list ys).length?.any (n ≤ ·) = (Value.list xs).length?.any (n ≤ ·) :=
    decide_eq_decide.mpr (show n ≤ ys.length ↔ n ≤ xs.length by omega)
  cases size with
  | none => rfl
  | some s => rw [withinSize, withinSize, PairingSystem.checkSize, PairingSystem.checkSize, hany]

/-- The check of a degree against the size, and what follows it. -/
theorem of_withinSize_bind {n : ℕ} {size : Option ℕ} {xs : List Value} {f : Unit → Except Failure α}
    {rest : Outcome} (hquote : IsQuotable xs (.int n))
    (h : (∀ s ∈ size, n ≤ s) → of (f ()) = rest) :
    of (withinSize (.list xs) n size >>= f) =
      if ∃ s ∈ size, s < n then refused "DegreeExceedsSRS" else rest := by
  split
  · next hbeyond =>
    obtain ⟨s, rfl, hs⟩ := hbeyond
    rw [withinSize]
    rcases Nat.lt_or_ge xs.length n with hlt | hge
    · have hrefusal : (Refusal.beyondKey n s).isWritable = true :=
        hquote.isWritable_of_length_lt hlt
      rw [PairingSystem.checkSize_of_length_lt hs hlt, Failure.quoting_eq hrefusal]
      rfl
    · rw [PairingSystem.checkSize_of_le_length hs hge]
      rfl
  · next hwithin =>
    have hle : ∀ s ∈ size, n ≤ s := fun s hs => Nat.not_lt.mp fun hlt => hwithin ⟨s, hs, hlt⟩
    rw [withinSize_of_le hle, ok_bind, h hle]

/-- The check of the coefficients that a degree reads, and what follows it. -/
theorem of_firstCoefficients_bind {xs : List Value} {n : ℕ} {f : Poly → Except Failure α}
    {rest : Outcome} (hquote : IsQuotable xs (.int n))
    (h : ∀ p : Poly, p.length = n → of (f p) = rest) :
    of (Poly.firstCoefficients (.list xs) n >>= f) =
      if xs.length < n ∨ ∃ v ∈ xs.take n, v.number? = none then refused "MalformedInput"
      else rest := by
  split
  · next hbad =>
    cases hx : Poly.firstCoefficients (.list xs) n with
    | error e =>
      obtain ⟨reason, rfl⟩ := Poly.fails_firstCoefficients hquote.isWritable_of_length_lt e hx
      rfl
    | ok p =>
      obtain ⟨hlength, hp⟩ := Poly.firstCoefficients_list_eq_ok_iff.mp hx
      obtain ⟨v, hv, hnone⟩ := hbad.resolve_left (Nat.not_lt.mpr hlength)
      obtain ⟨c, hc⟩ := hp.exists_toFr hv
      obtain ⟨m, hm, -⟩ := Value.toFr_eq_ok_iff.mp hc
      rw [hnone] at hm
      cases hm
  · next hgood =>
    obtain ⟨hlength, hnumbers⟩ := not_or.mp hgood
    obtain ⟨p, hp⟩ := Poly.exists_standFor fun v hv =>
      Option.isSome_iff_ne_none.mpr fun hnone => hnumbers ⟨v, hv, hnone⟩
    rw [Poly.firstCoefficients_list (Nat.not_lt.mp hlength) hp, ok_bind]
    exact h p (hp.length_eq_of_take (Nat.not_lt.mp hlength))

/-- A degree that cannot be written fails in its check, if what follows fails for large numbers. -/
theorem degree_bind_eq_badValue {least : ℕ} {f : ℕ → Except Failure α} {v : Value}
    (hv : v.isWritable = false) (hf : ∀ n : ℕ, v = .int n → f n = .error .badValue) :
    Poly.degree least v >>= f = .error .badValue := by
  cases hinteger : v.integer? with
  | none =>
    have hrefusal : (Refusal.degree (.notInteger v)).isWritable = false := hv
    rw [Poly.degree_of_none hinteger, Failure.quoting_eq_badValue hrefusal, error_bind]
  | some d =>
    obtain rfl : v = .int d := Value.integer?_eq_some_iff.mp hinteger
    by_cases hd : d < least
    · have hrefusal : (Refusal.degree (.below least d)).isWritable = false := hv
      rw [Poly.degree_below hd, Failure.quoting_eq_badValue hrefusal, error_bind]
    · obtain ⟨n, rfl⟩ := Int.eq_ofNat_of_zero_le (show 0 ≤ d by omega)
      rw [Poly.degree_int (by omega), ok_bind, hf n rfl]

/-- A degree that counts more than the list has and cannot be written fails against the size or
against the list. -/
theorem withinSize_bind_eq_badValue {n : ℕ} {size : Option ℕ} {xs : List Value}
    {f : Poly → Except Failure α} (hn : (Value.int n).isWritable = false) (hshort : xs.length < n) :
    (withinSize (.list xs) n size >>= fun _ => Poly.firstCoefficients (.list xs) n >>= f) =
      .error .badValue := by
  by_cases hsize : ∃ s ∈ size, s < n
  · obtain ⟨s, rfl, hs⟩ := hsize
    have hrefusal : (Refusal.beyondKey n s).isWritable = false := hn
    rw [withinSize, PairingSystem.checkSize_of_length_lt hs hshort,
      Failure.quoting_eq_badValue hrefusal, error_bind]
  · have hrefusal : (Refusal.malformed (.shortPolynomial xs.length n)).isWritable = false := hn
    rw [withinSize_of_le fun s hs => Nat.not_lt.mp fun hlt => hsize ⟨s, hs, hlt⟩, ok_bind,
      Poly.firstCoefficients_of_lt hshort, Failure.quoting_eq_badValue hrefusal, error_bind]

/-- The check of a point, and what follows it. -/
theorem of_toFr_bind {v : Value} {f : Fr → Except Failure α} {rest : Outcome}
    (h : ∀ z, of (f z) = rest) :
    of (v.toFr >>= f) = if v.number? = none then fault .wrongKind else rest := by
  rw [Value.toFr, Value.number]
  cases v.number? with
  | none => rfl
  | some m => exact h m.toFr

/-- The checks in their order, and what follows them. Without a point it is zero. -/
def checked (least : ℕ) (size : Option ℕ) (poly degree : Value) (point : Option Value)
    (f : ℕ → Poly → Fr → Except Failure α) : Except Failure α := do
  let n ← Poly.degree least degree
  withinSize poly n size
  let p ← Poly.firstCoefficients poly n
  let z ← point.elim (.ok 0) Value.toFr
  f n p z

/-- Whether nothing but the checks of an algorithm on a polynomial and a degree can fail. -/
def FailsInChecks (least : ℕ) (size : Option ℕ) (point : Option Value)
    (run : Value → Value → Except Failure α) : Prop :=
  ∃ f : ℕ → Poly → Fr → Except Failure α,
    (∀ poly degree, run poly degree = checked least size poly degree point f) ∧
    ∀ n p z, least ≤ n → (∀ s ∈ size, n ≤ s) → p.length = n → ∃ a, f n p z = .ok a

section FailsInChecks

variable {least : ℕ} {size : Option ℕ} {point : Option Value}
  {run : Value → Value → Except Failure α} {xs : List Value} {degree : Value}

/-- If the degree can be quoted, the first check that fails decides the outcome. -/
theorem FailsInChecks.of_eq (h : FailsInChecks least size point run) (hleast : least ≤ 2)
    (hquote : IsQuotable xs degree) :
    of (run (.list xs) degree) = expected least size xs point degree := by
  obtain ⟨f, hrun, hf⟩ := h
  have hvalue (n : ℕ) (p : Poly) (z : Fr) (hn : least ≤ n) (hsize : ∀ s ∈ size, n ≤ s)
      (hp : p.length = n) : of (f n p z) = value := by
    obtain ⟨a, ha⟩ := hf n p z hn hsize hp
    rw [ha]
    rfl
  have hpoint (n : ℕ) (p : Poly) (hn : least ≤ n) (hsize : ∀ s ∈ size, n ≤ s) (hp : p.length = n) :
      of (point.elim (.ok 0) Value.toFr >>= f n p) =
        if ∃ v ∈ point, v.number? = none then fault .wrongKind else value := by
    cases point with
    | none => simpa using hvalue n p 0 hn hsize hp
    | some v => simpa using of_toFr_bind fun z => hvalue n p z hn hsize hp
  have hdegree (n : ℕ) (heq : degree = .int n) (hn : least ≤ n) :
      of (withinSize (.list xs) n size >>= fun _ => Poly.firstCoefficients (.list xs) n >>= fun p =>
        point.elim (.ok 0) Value.toFr >>= f n p) =
        if ∃ s ∈ size, s < n then refused "DegreeExceedsSRS"
        else if xs.length < n ∨ ∃ v ∈ xs.take n, v.number? = none then refused "MalformedInput"
        else if ∃ v ∈ point, v.number? = none then fault .wrongKind
        else value := by
    rw [heq] at hquote
    exact of_withinSize_bind hquote fun hsize =>
      of_firstCoefficients_bind hquote fun p hp => hpoint n p hn hsize hp
  rw [hrun]
  exact of_degree_bind hleast degree hquote hdegree

/-- If the degree cannot be quoted, no algorithm gets past the checks that would quote it. -/
theorem FailsInChecks.eq_badValue (h : FailsInChecks least size point run)
    (hquote : ¬IsQuotable xs degree) : run (.list xs) degree = .error .badValue := by
  obtain ⟨f, hrun, -⟩ := h
  obtain ⟨hwritable, hcount⟩ := not_or.mp hquote
  have hunwritable : degree.isWritable = false := Bool.eq_false_iff.mpr hwritable
  rw [hrun, checked]
  refine degree_bind_eq_badValue hunwritable fun n heq => ?_
  have hshort : xs.length < n := Nat.not_le.mp fun hn => hcount ⟨n, hn, heq⟩
  exact withinSize_bind_eq_badValue (heq ▸ hunwritable) hshort

/-- Coefficients past the degree do not matter. -/
theorem FailsInChecks.congr (h : FailsInChecks least size point run) {ys : List Value}
    (hxs : ∀ n : ℕ, degree = .int n → ys.take n = xs.take n) :
    run (.list ys) degree = run (.list xs) degree := by
  obtain ⟨f, hrun, -⟩ := h
  rw [hrun, hrun, checked, checked]
  cases hdegree : Poly.degree least degree with
  | error e => rfl
  | ok n =>
    have htake := hxs n (Poly.degree_eq_ok_iff.mp hdegree).1
    simp only [ok_bind, Poly.firstCoefficients_congr htake, withinSize_congr htake size]

end FailsInChecks

end Outcome

/-! ### The algorithms -/

open Outcome

/-- Nothing but the checks of an evaluation can fail. -/
theorem Poly.failsInChecks_evaluate (point : Value) :
    FailsInChecks 0 none (some point) fun poly degree => evaluate poly point degree :=
  ⟨fun _ p z => .ok (p.eval z), fun _ _ => rfl, fun _ _ _ _ _ _ => ⟨_, rfl⟩⟩

namespace PairingSystem

variable {T : Type}

/-- The degree for a key goes through the first two checks. -/
theorem keyDegree_bind {α : Type} (key : Key) (least : ℕ) (poly degree : Value)
    (f : ℕ → Except Failure α) :
    keyDegree key least poly degree >>= f =
      Poly.degree least degree >>= fun n =>
        withinSize poly n (some key.size₁) >>= fun _ => f n := by
  simp only [keyDegree, bind_assoc, pure_bind]
  rfl

/-- Nothing but the checks of a commitment can fail. -/
theorem failsInChecks_commit (E : PairingSystem T) (key : Key) :
    FailsInChecks 1 (some key.size₁) none (E.commit key) := by
  refine ⟨fun n p _ => Window.sum E.g₁ key.points₁ (p.map .scalar) 0 n, ?_, ?_⟩
  · intro poly degree
    rw [commit, keyDegree_bind]
    rfl
  · intro n p z _ hsize hp
    exact Window.exists_sum hp.ge (by rw [Key.length_points₁]; exact hsize _ rfl)

/-- Nothing but the checks of an opening can fail. -/
theorem failsInChecks_openAt (E : PairingSystem T) (key : Key) (point : Value) :
    FailsInChecks 2 (some key.size₁) (some point) fun poly degree =>
      E.openAt key poly point degree := by
  refine ⟨E.openPolynomial key, ?_, ?_⟩
  · intro poly degree
    change (keyDegree key 2 poly degree >>= _) = _
    rw [keyDegree_bind]
    rfl
  · intro n p z hn hsize hp
    obtain ⟨C, -, hC⟩ :=
      exists_sum_quotientAt (E := E) (show 1 ≤ n by omega) (hsize _ rfl) hp z
    rw [openPolynomial_eq (by omega) hp, hC]
    exact ⟨_, rfl⟩

/-- For any key, on the curve or not, and any values, the first check that fails decides the outcome
of committing, evaluating and opening, and they succeed if none does. This is so for every degree
that a JSON document can hold; an integer of too many digits is no degree, nor can a refusal quote
it. Coefficients past the degree change nothing, not even a sentence. -/
theorem outcome_eq_expected (key : Key) (xs : List Value) (point degree : Value) :
    (degree.isWritable = true →
      of (bn254.commit key (.list xs) degree) = expected 1 (some key.size₁) xs none degree ∧
      of (Poly.evaluate (.list xs) point degree) = expected 0 none xs (some point) degree ∧
      of (bn254.openAt key (.list xs) point degree) =
        expected 2 (some key.size₁) xs (some point) degree) ∧
    (∀ bytes, Value.ofDocument? bytes = some degree → degree.isWritable = true) ∧
    (degree.isWritable = false → xs.length < 10 ^ Text.digitLimit →
      bn254.commit key (.list xs) degree = .error .badValue ∧
      Poly.evaluate (.list xs) point degree = .error .badValue ∧
      bn254.openAt key (.list xs) point degree = .error .badValue) ∧
    ∀ ys : List Value, (∀ n : ℕ, degree = .int n → ys.take n = xs.take n) →
      bn254.commit key (.list ys) degree = bn254.commit key (.list xs) degree ∧
      Poly.evaluate (.list ys) point degree = Poly.evaluate (.list xs) point degree ∧
      bn254.openAt key (.list ys) point degree = bn254.openAt key (.list xs) point degree := by
  have hcommit := failsInChecks_commit bn254 key
  have hevaluate := Poly.failsInChecks_evaluate point
  have hopen := failsInChecks_openAt bn254 key point
  refine ⟨fun hwritable => ?expected, fun bytes => Value.isWritable_of_ofDocument?,
    fun hunwritable hlength => ?badValue, fun ys h => ?congr⟩
  case expected =>
    exact ⟨hcommit.of_eq (by decide) (.inl hwritable), hevaluate.of_eq (by decide) (.inl hwritable),
      hopen.of_eq (by decide) (.inl hwritable)⟩
  case badValue =>
    have hquote := not_isQuotable hunwritable hlength
    exact ⟨hcommit.eq_badValue hquote, hevaluate.eq_badValue hquote, hopen.eq_badValue hquote⟩
  case congr => exact ⟨hcommit.congr h, hevaluate.congr h, hopen.congr h⟩

/-- Under a key of two points that are not on the curve, `x + 1` is read from `1`, a truth value and
a null that the degree `2` leaves unread. -/
theorem outcome_eq_expected_offCurve : ∃ key : Key,
    (∀ P ∈ key.points₁, Bn254.onCurve₁ P = false) ∧
    of (bn254.commit key (.list [.int 1, .bool true, .null]) (.int 2)) = .value ∧
    of (bn254.openAt key (.list [.int 1, .bool true, .null]) (.str []) (.int 2)) =
      .fault .wrongKind ∧
    of (bn254.openAt key (.list [.int 1, .bool true, .null]) (.str []) (.int 3)) =
      .refused "DegreeExceedsSRS" ∧
    of (Poly.evaluate (.list [.int 1, .bool true, .null]) (.str []) (.int 3)) =
      .refused "MalformedInput" ∧
    of (Poly.evaluate (.list [.int 1, .bool true, .null]) (.str []) (.bool true)) =
      .refused "InvalidDegree" ∧
    bn254.commit key (.list [.int 1, .bool true]) (.int 2) =
      bn254.commit key (.list [.int 1, .bool true, .null]) (.int 2) := by
  obtain ⟨key, hpoints, hsize⟩ : ∃ key : Key,
      (∀ P ∈ key.points₁, Bn254.onCurve₁ P = false) ∧ key.size₁ = 2 :=
    ⟨⟨[⟨0, 0⟩, ⟨1, 1⟩], [Bn254.base₂], by simp, by simp⟩, by decide, rfl⟩
  have h := outcome_eq_expected key [.int 1, .bool true, .null] (.str [])
  simp only [hsize] at h
  have htwo := (h (.int 2)).1 (by decide +kernel)
  have hthree := (h (.int 3)).1 (by decide +kernel)
  refine ⟨key, hpoints, htwo.1, htwo.2.2, hthree.2.2, hthree.2.1, ((h (.bool true)).1 rfl).2.1,
    ((h (.int 2)).2.2.2 [.int 1, .bool true] ?_).1⟩
  intro n hn
  cases hn
  rfl

end PairingSystem

end PolyCommit
