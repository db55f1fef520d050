import PolyCommit.ProductFlow
import PolyCommit.Proofs.Commitment.Verification
import PolyCommit.Proofs.Polynomial.Linearity

/-!
# Which products can be opened

The flow for two lists of numbers has four outcomes, and their lengths alone decide between them: a
factor is empty, the product has more coefficients than the key has powers, a factor is constant, or
everything succeeds. In the last case the values multiply and all three witnesses are accepted,
wherever the hash function puts the point.
-/

namespace PolyCommit

namespace Triple

variable {α β : Type} {f : α → Except Failure β} {t : Triple α}

/-- A triple of computations succeeds if all three do. -/
theorem mapM_eq_ok {left right product : β} (hleft : f t.left = .ok left)
    (hright : f t.right = .ok right) (hproduct : f t.product = .ok product) :
    t.mapM f = .ok ⟨left, right, product⟩ := by
  rw [mapM, hleft, ok_bind, hright, ok_bind, hproduct]
  rfl

/-- If one of three computations fails, then one of their failures is that of all three. -/
theorem exists_mapM_eq_error {P : Failure → Prop} (hfails : ∀ x ∈ t.toList, Fails P (f x)) {x : α}
    (hx : x ∈ t.toList) {e : Failure} (he : f x = .error e) : ∃ e, t.mapM f = .error e ∧ P e := by
  have hleft : Fails P (f t.left) := hfails _ (by simp [toList])
  have hright : Fails P (f t.right) := hfails _ (by simp [toList])
  have hproduct : Fails P (f t.product) := hfails _ (by simp [toList])
  have hall : Fails P (t.mapM f) :=
    .bind hleft fun _ _ => .bind hright fun _ _ => .bind hproduct fun _ _ => .ok
  cases hmap : t.mapM f with
  | error e => exact ⟨e, rfl, hall e hmap⟩
  | ok u =>
    obtain ⟨a, ha, hmap⟩ := bind_eq_ok_iff.mp hmap
    obtain ⟨b, hb, hmap⟩ := bind_eq_ok_iff.mp hmap
    obtain ⟨c, hc, -⟩ := bind_eq_ok_iff.mp hmap
    have hok : ∃ y, f x = .ok y := by
      simp only [toList, List.mem_cons, List.not_mem_nil, or_false] at hx
      rcases hx with rfl | rfl | rfl
      exacts [⟨a, ha⟩, ⟨b, hb⟩, ⟨c, hc⟩]
    obtain ⟨y, hy⟩ := hok
    rw [he] at hy
    cases hy

end Triple

namespace ProductFlow

variable {T : Type} {E : PairingSystem T} [E.g₁.Lawful] [E.g₂.Lawful] {key : Key}

/-! ### One polynomial at its full degree -/

section Full

variable {P : E.g₁.Member} {Q : E.g₂.Member} {a : Fr} {size : ℕ} {xs : List Value} {p : Poly}

/-- The full degree of a list counts the coefficients. -/
theorem fullDegree_list (hxs : Poly.StandFor xs p) : fullDegree (.list xs) = .int p.length := by
  rw [fullDegree, Value.length?, Option.getD_some, hxs.length_eq]

/-- All coefficients are committed to, if the key has as many powers. -/
theorem commit_full (hkey : Key.IsLadder E key P Q a size) (hxs : Poly.StandFor xs p) (hp : p ≠ [])
    (hsize : p.length ≤ size) :
    E.commit key (.list xs) (fullDegree (.list xs)) = .ok (p.eval a • P).point := by
  rw [fullDegree_list hxs]
  exact PairingSystem.commit_ladder hkey (List.length_pos_iff.mpr hp) hsize hxs.length_eq.ge
    (hxs.take_of_length_le hxs.length_eq.le)

/-- All coefficients have a value. -/
theorem evaluate_full (hxs : Poly.StandFor xs p) (z : Fr) :
    Poly.evaluate (.list xs) (.scalar z) (fullDegree (.list xs)) = .ok (p.eval z) := by
  rw [fullDegree_list hxs]
  exact Poly.evaluate_all hxs rfl

/-- All coefficients can be opened, if there are two or more and the key has as many powers. -/
theorem openAt_full (hkey : Key.IsLadder E key P Q a size) (hxs : Poly.StandFor xs p)
    (hp : 2 ≤ p.length) (hsize : p.length ≤ size) (z : Fr) :
    E.openAt key (.list xs) (.scalar z) (fullDegree (.list xs)) =
      .ok ⟨z, (p.eval z • P).point, ((p.quotientAt z).eval a • P).point⟩ := by
  rw [fullDegree_list hxs]
  exact PairingSystem.openAt_ladder hkey hp hsize hxs.length_eq.ge
    (hxs.take_of_length_le hxs.length_eq.le) z

omit [E.g₁.Lawful] [E.g₂.Lawful] in
/-- A polynomial of more coefficients than the key has powers is refused. -/
theorem commit_full_of_lt (hxs : Poly.StandFor xs p) (hp : p ≠ []) (hsize : key.size₁ < p.length) :
    E.commit key (.list xs) (fullDegree (.list xs)) =
      .error (.refused (.beyondKey p.length key.size₁)) := by
  have hlength := hxs.length_eq
  have hpos := List.length_pos_iff.mpr hp
  rw [fullDegree_list hxs, ← hlength]
  exact PairingSystem.commit_beyondKey (by omega) (by omega)

/-- A commitment to a polynomial of some coefficients fails for their number alone. -/
theorem fails_commit_full (hkey : Key.IsLadder E key P Q a size) (hxs : Poly.StandFor xs p)
    (hp : p ≠ []) : Fails (fun e => ∃ n, e = .refused (.beyondKey n key.size₁))
      (E.commit key (.list xs) (fullDegree (.list xs))) := by
  rcases Nat.lt_or_ge size p.length with hlt | hle
  · rw [commit_full_of_lt hxs hp (hkey.size₁_eq.trans_lt hlt)]
    exact .error ⟨_, rfl⟩
  · rw [commit_full hkey hxs hp hle]
    exact .ok

/-- Within the key an opening fails for constants alone. -/
theorem fails_openAt_full (hkey : Key.IsLadder E key P Q a size) (hxs : Poly.StandFor xs p)
    (hp : p ≠ []) (hsize : p.length ≤ size) (z : Fr) :
    Fails (fun e => e = .refused (.degree (.below 2 1)))
      (E.openAt key (.list xs) (.scalar z) (fullDegree (.list xs))) := by
  rcases eq_or_ne p.length 1 with hone | hne
  · rw [fullDegree_list hxs, hone, PairingSystem.openAt_one]
    exact .error rfl
  · have := List.length_pos_iff.mpr hp
    rw [openAt_full hkey hxs (by omega) hsize]
    exact .ok

end Full

/-! ### The flow -/

/-- Two lists and the coefficients of the product. -/
def operands (xs ys : List Value) (p q : Poly) : Triple Value :=
  ⟨.list xs, .list ys, .list ((Poly.mul p q).map .scalar)⟩

section Run

variable {P : E.g₁.Member} {Q : E.g₂.Member} {a : Fr} {size : ℕ} {xs ys : List Value} {p q : Poly}
  (hash : Bytes → Digest) (hkey : Key.IsLadder E key P Q a size) (hxs : Poly.StandFor xs p)
  (hys : Poly.StandFor ys q) (hp : p ≠ []) (hq : q ≠ [])

include hxs hys hp hq in
/-- Each operand stands for coefficients, at most as many as the product has. -/
theorem forall_operands {M : Value → Prop}
    (h : ∀ vs r, Poly.StandFor vs r → r ≠ [] → r.length ≤ p.length + q.length - 1 → M (.list vs)) :
    ∀ v ∈ (operands xs ys p q).toList, M v := by
  have := List.length_pos_iff.mpr hp
  have := List.length_pos_iff.mpr hq
  simp only [operands, Triple.toList, List.forall_mem_cons]
  exact ⟨h xs p hxs hp (by omega), h ys q hys hq (by omega),
    h _ _ (Poly.standFor_scalar _) (Poly.mul_ne_nil hp hq) (Poly.length_mul hp hq).le, nofun⟩

include hkey hxs hys hp hq

/-- A product with more coefficients than the key has powers is refused, if not one of its factors
is before. -/
theorem refuses_run_of_lt (hlt : size < p.length + q.length - 1) :
    Refuses "DegreeExceedsSRS" (run E hash key (.list xs) (.list ys)) := by
  obtain ⟨f, hf⟩ : ∃ f, E.commit key (operands xs ys p q).product
      (fullDegree (operands xs ys p q).product) = .error f := by
    refine ⟨_, commit_full_of_lt (Poly.standFor_scalar _) (Poly.mul_ne_nil hp hq) ?_⟩
    rwa [Poly.length_mul hp hq, hkey.size₁_eq]
  obtain ⟨e, he, n, rfl⟩ := Triple.exists_mapM_eq_error
    (f := fun v => E.commit key v (fullDegree v))
    (forall_operands hxs hys hp hq fun vs r hvs hr _ => fails_commit_full hkey hvs hr)
    (by simp [Triple.toList]) hf
  refine ⟨.beyondKey n key.size₁, ?_, rfl⟩
  rw [run, Poly.product_list hxs hys hp hq, ok_bind]
  exact congrArg (· >>= _) he

/-- If the product fits the key, everything up to the openings succeeds. -/
theorem exists_run_eq_bind (hle : p.length + q.length - 1 ≤ size) : ∃ z,
    run E hash key (.list xs) (.list ys) =
      (operands xs ys p q).mapM (fun v => E.openAt key v (.scalar z) (fullDegree v)) >>= fun ws =>
        .ok ⟨Poly.mul p q,
          ⟨(p.eval a • P).point, (q.eval a • P).point, ((Poly.mul p q).eval a • P).point⟩, z,
          ⟨p.eval z, q.eval z, (Poly.mul p q).eval z⟩, ws⟩ := by
  have hlength := Poly.length_mul hp hq
  have := List.length_pos_iff.mpr hp
  have := List.length_pos_iff.mpr hq
  have hstand := Poly.standFor_scalar (Poly.mul p q)
  have hcommit : (operands xs ys p q).mapM (fun v => E.commit key v (fullDegree v)) = .ok _ :=
    Triple.mapM_eq_ok (commit_full hkey hxs hp (by omega)) (commit_full hkey hys hq (by omega))
      (commit_full hkey hstand (Poly.mul_ne_nil hp hq) (by omega))
  have hevaluate (z : Fr) : (operands xs ys p q).mapM
      (fun v => Poly.evaluate v (.scalar z) (fullDegree v)) = .ok _ :=
    Triple.mapM_eq_ok (evaluate_full hxs z) (evaluate_full hys z) (evaluate_full hstand z)
  refine ⟨Transcript.openingPoint hash (p.eval a • P).point (q.eval a • P).point
    ((Poly.mul p q).eval a • P).point, ?_⟩
  rw [run, Poly.product_list hxs hys hp hq, ok_bind]
  simp only [operands] at hcommit hevaluate ⊢
  rw [hcommit, ok_bind, hevaluate, ok_bind]
  rfl

/-- Then a constant factor is refused. -/
theorem refuses_run_of_constant (hle : p.length + q.length - 1 ≤ size)
    (hone : p.length = 1 ∨ q.length = 1) :
    Refuses "InvalidDegree" (run E hash key (.list xs) (.list ys)) := by
  obtain ⟨z, hrun⟩ := exists_run_eq_bind hash hkey hxs hys hp hq hle
  obtain ⟨v, hv, f, hf⟩ : ∃ v ∈ (operands xs ys p q).toList, ∃ f,
      E.openAt key v (.scalar z) (fullDegree v) = .error f := by
    rcases hone with hone | hone
    · exact ⟨.list xs, by simp [operands, Triple.toList], _, by
        rw [fullDegree_list hxs, hone]; exact PairingSystem.openAt_one⟩
    · exact ⟨.list ys, by simp [operands, Triple.toList], _, by
        rw [fullDegree_list hys, hone]; exact PairingSystem.openAt_one⟩
  obtain ⟨e, he, rfl⟩ := Triple.exists_mapM_eq_error
    (f := fun v => E.openAt key v (.scalar z) (fullDegree v))
    (forall_operands hxs hys hp hq fun vs r hvs hr hlength =>
      fails_openAt_full hkey hvs hr (hlength.trans hle) z) hv hf
  exact ⟨.degree (.below 2 1), by rw [hrun, he, error_bind], rfl⟩

end Run

/-- Factors of two coefficients at least, whose product fits the key, have accepted openings, and
their values multiply. -/
theorem exists_run_eq_ok [Mul T] [One T] [DecidableEq T] (hE : E.IsBilinear) (hash : Bytes → Digest)
    {k₁ k₂ a : Fr} {size : ℕ}
    (hkey : Key.IsLadder E key (k₁ • E.g₁.generator) (k₂ • E.g₂.generator) a size)
    (hsize : 2 ≤ size) {xs ys : List Value} {p q : Poly} (hxs : Poly.StandFor xs p)
    (hys : Poly.StandFor ys q) (hp : 2 ≤ p.length) (hq : 2 ≤ q.length)
    (hle : p.length + q.length - 1 ≤ size) :
    ∃ flow, run E hash key (.list xs) (.list ys) = .ok flow ∧
      flow.values.left * flow.values.right = flow.values.product ∧
      List.Forall₂ (fun C w => w.point = flow.point ∧ E.verify key C w = .ok true)
        flow.commitments.toList flow.witnesses.toList := by
  have hp' : p ≠ [] := List.ne_nil_of_length_pos (by omega)
  have hq' : q ≠ [] := List.ne_nil_of_length_pos (by omega)
  have hlength := Poly.length_mul hp' hq'
  have hstand := Poly.standFor_scalar (Poly.mul p q)
  obtain ⟨z, hrun⟩ := exists_run_eq_bind hash hkey hxs hys hp' hq' hle
  have hopen : (operands xs ys p q).mapM
      (fun v => E.openAt key v (.scalar z) (fullDegree v)) = .ok _ :=
    Triple.mapM_eq_ok (openAt_full hkey hxs hp (by omega) z)
      (openAt_full hkey hys hq (by omega) z) (openAt_full hkey hstand (by omega) (by omega) z)
  have hverify {r : Poly} (hr : r ≠ []) :=
    PairingSystem.verify_ladder_quotientAt hE hkey hsize hr z
  refine ⟨_, by rw [hrun, hopen, ok_bind], (Poly.eval_mul p hq' z).symm, ?_⟩
  exact .cons ⟨rfl, hverify hp'⟩
    (.cons ⟨rfl, hverify hq'⟩ (.cons ⟨rfl, hverify (Poly.mul_ne_nil hp' hq')⟩ .nil))

variable {pair : Point Fq2 → Point Fq → Option T}

/-- The lengths of the factors decide the outcome of the flow, whatever the hash function: refused
for an empty factor, else for a product beyond the key, else for a constant factor, and otherwise
with three accepted openings whose values multiply. -/
theorem run_spec [Mul T] [One T] [DecidableEq T] (hpair : (Bn254.system pair).IsBilinear)
    {setupHash : Bytes → Digest} {bound seed : Value} {draws : Draws}
    (hkey : (Key.setup (Bn254.system pair) setupHash bound seed draws).1 = .ok key)
    (hash : Bytes → Digest) {xs ys : List Value} (hxs : ∀ v ∈ xs, v.number?.isSome)
    (hys : ∀ v ∈ ys, v.number?.isSome) {result : Except Failure ProductFlow}
    (hresult : run (Bn254.system pair) hash key (.list xs) (.list ys) = result) :
    (Refuses "MalformedInput" result ↔ xs = [] ∨ ys = []) ∧
    (xs ≠ [] ∧ ys ≠ [] →
      (Refuses "DegreeExceedsSRS" result ↔ key.size₁ < xs.length + ys.length - 1) ∧
      (xs.length + ys.length - 1 ≤ key.size₁ →
        (Refuses "InvalidDegree" result ↔ xs.length = 1 ∨ ys.length = 1) ∧
        (xs.length ≠ 1 ∧ ys.length ≠ 1 → ∃ flow, result = .ok flow ∧
          flow.values.left * flow.values.right = flow.values.product ∧
          List.Forall₂
            (fun C w => w.point = flow.point ∧ (Bn254.system pair).verify key C w = .ok true)
            flow.commitments.toList flow.witnesses.toList))) := by
  subst hresult
  obtain ⟨s, t, ht, hladder⟩ := Key.exists_isLadder_of_setup hkey
  obtain ⟨p, hp⟩ := Poly.exists_standFor hxs
  obtain ⟨q, hq⟩ := Poly.exists_standFor hys
  rw [hladder.size₁_eq, hp.length_eq, hq.length_eq]
  by_cases hempty : xs = [] ∨ ys = []
  · have hrefused : Refuses "MalformedInput"
        (run (Bn254.system pair) hash key (.list xs) (.list ys)) :=
      ⟨.malformed .emptyFactor, by rw [run, Poly.product_of_empty hempty]; rfl, rfl⟩
    exact ⟨iff_of_true hrefused hempty, fun hne => absurd hempty (not_or.mpr hne)⟩
  have hpne : p ≠ [] := hp.ne_nil_iff.mpr (not_or.mp hempty).1
  have hqne : q ≠ [] := hq.ne_nil_iff.mpr (not_or.mp hempty).2
  have hppos := List.length_pos_iff.mpr hpne
  have hqpos := List.length_pos_iff.mpr hqne
  rcases Nat.lt_or_ge (t + 1) (p.length + q.length - 1) with hlt | hle
  · have hrefused := refuses_run_of_lt hash hladder hp hq hpne hqne hlt
    exact ⟨iff_of_false (hrefused.not_refuses (by decide)) hempty,
      fun _ => ⟨iff_of_true hrefused hlt, fun hle => absurd hlt (not_lt.mpr hle)⟩⟩
  by_cases hone : p.length = 1 ∨ q.length = 1
  · have hrefused := refuses_run_of_constant hash hladder hp hq hpne hqne hle hone
    exact ⟨iff_of_false (hrefused.not_refuses (by decide)) hempty,
      fun _ => ⟨iff_of_false (hrefused.not_refuses (by decide)) (not_lt.mpr hle),
        fun _ => ⟨iff_of_true hrefused hone, fun hne => absurd hone (not_or.mpr hne)⟩⟩⟩
  · obtain ⟨flow, hflow, hspec⟩ := exists_run_eq_ok hpair hash hladder (by omega) hp hq
      (by omega) (by omega) hle
    rw [hflow]
    exact ⟨iff_of_false (not_refuses_ok _ _) hempty,
      fun _ => ⟨iff_of_false (not_refuses_ok _ _) (not_lt.mpr hle),
        fun _ => ⟨iff_of_false (not_refuses_ok _ _) hone, fun _ => ⟨flow, rfl, hspec⟩⟩⟩⟩

/-- With four powers `2x² + 3x + 1` and `5x + 7` can be multiplied and opened; a factor with one
coefficient more is beyond the key, a constant one cannot be opened, and an empty one is malformed.
-/
theorem run_spec_drawn : ∃ key,
    (Key.setup (Bn254.system (Bn254.logPair Ate.root)) Sha256.hash (.int 3) .null [5, 6, 41]).1 =
      .ok key ∧
    (∃ flow, run (Bn254.system (Bn254.logPair Ate.root)) Sha256.hash key
        (.list [.int 2, .int 3, .int 1]) (.list [.int 5, .int 7]) = .ok flow ∧
      flow.values.left * flow.values.right = flow.values.product ∧
      List.Forall₂ (fun C w => w.point = flow.point ∧
          (Bn254.system (Bn254.logPair Ate.root)).verify key C w = .ok true)
        flow.commitments.toList flow.witnesses.toList) ∧
    Refuses "DegreeExceedsSRS" (run (Bn254.system (Bn254.logPair Ate.root)) Sha256.hash key
      (.list [.int 2, .int 3, .int 1]) (.list [.int 5, .int 7, .int 1])) ∧
    Refuses "InvalidDegree" (run (Bn254.system (Bn254.logPair Ate.root)) Sha256.hash key
      (.list [.int 2]) (.list [.int 5, .int 7])) ∧
    Refuses "MalformedInput" (run (Bn254.system (Bn254.logPair Ate.root)) Sha256.hash key
      (.list []) (.list [.int 5, .int 7])) := by
  obtain ⟨key, hkey⟩ : ∃ key, (Key.setup (Bn254.system (Bn254.logPair Ate.root)) Sha256.hash
      (.int 3) .null [5, 6, 41]).1 = .ok key :=
    (Key.exists_setup_iff (E := Bn254.system _) (show 1 ≤ 3 by decide)).mpr (.inl rfl)
  have hsize : key.size₁ = 4 := (Key.isLadder_of_setup (show 1 ≤ 3 by decide) rfl hkey).size₁_eq
  have hnumbers (ks : List ℤ) : ∀ v ∈ ks.map Value.int, v.number?.isSome :=
    List.forall_mem_map.mpr fun _ _ => rfl
  have hspec (ks ls : List ℤ) := run_spec (Bn254.logPair_isBilinear Ate.root_pow) hkey Sha256.hash
    (hnumbers ks) (hnumbers ls) rfl
  simp only [hsize] at hspec
  refine ⟨key, hkey, ?_, ?_, ?_, ?_⟩
  · exact (((hspec [2, 3, 1] [5, 7]).2 (by simp)).2 (by decide)).2 (by decide)
  · exact ((hspec [2, 3, 1] [5, 7, 1]).2 (by simp)).1.mpr (by decide)
  · exact (((hspec [2] [5, 7]).2 (by simp)).2 (by decide)).1.mpr (.inl rfl)
  · exact (hspec [] [5, 7]).1.mpr (.inl rfl)

end ProductFlow

end PolyCommit
