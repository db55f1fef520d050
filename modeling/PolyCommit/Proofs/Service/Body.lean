import PolyCommit.Proofs.Service.Cache
import PolyCommit.Proofs.Polynomial.Input
import PolyCommit.Proofs.Witness.Codec

/-!
# What bodies mean

The plans of requests whose bodies are in order, and the responses to them when there is a current
key. A body names a polynomial by its coefficients, and either names a degree or means all of them.
-/

namespace PolyCommit

/-! ### Methods -/

namespace Request

variable {r : Request} {route : Route}

/-- A request that finds its resource leads to an operation only by a method that it takes. -/
theorem allows_of_meet {resource : Resource} (h : r.meet resource = .operation route) :
    resource = .operation route ∧ resource.allows r.verb = true := by
  unfold meet at h
  split at h
  · cases h
  · next hallows =>
    have hallows : resource.allows r.verb = true := by simpa using hallows
    split at h
    · cases h
    · split at h
      · cases h
      · cases resource with
        | operation route' =>
          cases h
          exact ⟨rfl, hallows⟩
        | asset => cases h

/-- A redirection leads to no operation. -/
theorem redirect_ne (resource : Resource) : r.redirect resource ≠ .operation route := by
  unfold redirect
  split
  · nofun
  · split <;> nofun

/-- An operation is reached only by a method that it takes. -/
theorem allows_of_destination (h : r.destination = .operation route) :
    (Resource.operation route).allows r.verb = true := by
  unfold destination at h
  dsimp only at h
  split at h
  · cases h
  · split at h
    · obtain ⟨rfl, hallows⟩ := allows_of_meet h
      exact hallows
    · exact absurd h (redirect_ne _)
    · cases h

/-- Only the key can be asked for by its head alone. -/
theorem method_ne_head (h : r.destination = .operation route) (hroute : route ≠ .key) :
    r.method ≠ Text.ofString "HEAD" := by
  intro hmethod
  have hallows := allows_of_destination h
  have hverb : (Text.ofString "HEAD").upperAscii = Text.ofString "HEAD" := by decide +kernel
  rw [verb, hmethod, hverb] at hallows
  cases route with
  | key => exact hroute rfl
  | _ => exact absurd hallows (by decide +kernel)

end Request

namespace Service

/-! ### Bodies -/

/-- Whether a body names the polynomial of the first `n` of some coefficients. -/
structure NamesPoly (fields : List (Text × Value)) (xs : List Value) (n : ℕ) : Prop where
  poly : Value.lookup (Text.ofString "poly") fields = some (.list xs)
  degree : Value.lookup (Text.ofString "degree") fields = some (.int n) ∨
    Value.lookup (Text.ofString "degree") fields = none ∧ n = xs.length

/-- Whether a body names a point. -/
def NamesPoint (fields : List (Text × Value)) (z : Fr) : Prop :=
  ∃ v, Value.lookup (Text.ofString "point") fields = some v ∧ v.toScalar = .ok z

variable {fields : List (Text × Value)} {xs : List Value} {p : Poly} {n : ℕ} {z : Fr}

/-- A field that is found is there. -/
theorem require_eq {name : String} {v : Value}
    (h : Value.lookup (Text.ofString name) fields = some v) :
    Request.require name fields = .ok v := by
  rw [Request.require, h]

/-- The coefficients are read, and the degree is found or counted. -/
theorem NamesPoly.polyAndDegree_eq (h : NamesPoly fields xs n)
    (hp : xs.mapM Value.toScalar = .ok p) : Plan.polyAndDegree fields = .ok (p, .int n) := by
  have hlength : xs.length = p.length := (mapM_eq_ok_iff.mp hp).length_eq
  have hpoly : (Value.list xs).toPoly = .ok p := hp
  rw [Plan.polyAndDegree, require_eq h.poly, ok_bind, hpoly, ok_bind]
  obtain hdegree | ⟨hdegree, rfl⟩ := h.degree
  · rw [hdegree]
    rfl
  · rw [hdegree, hlength]
    rfl

variable {T : Type} {E : PairingSystem T}

/-- A witness of members is read from the body in either form. -/
theorem bodyWitness_eq [E.g₁.Lawful] [E.g₁.OriginFree] {w : Witness} (hw : w.IsContained E)
    {v : Value} (hv : w.IsForm v) : Plan.bodyWitness E v = .ok w := by
  obtain hv | rfl := hv
  · have hvalue := Witness.ofValue_of_reordered hw hv
    -- only a text is read as hex, and either way this value is an object
    cases hv with
    | same => exact hvalue
    | fields => exact hvalue
  · exact Witness.ofHex_toHex hw

/-! ### Plans and responses -/

variable [Mul T] [DecidableEq T] {hash : Bytes → Digest} {limit : ℤ} {config : Config} {s : State}
  {r : Request} {route : Route}

/-- A commitment is asked of the key for the coefficients that the body names. -/
theorem ofRequest_commit (hfields : r.fields = .ok fields) (hbody : NamesPoly fields xs n)
    (hp : xs.mapM Value.toScalar = .ok p) :
    Plan.ofRequest E hash limit .commit r = .ok (.withKey fun key => do
      return Plan.answerFields
        [("commitment", .ofPoint₁ (← E.commit key (Plan.operand p) (.int n)))]) := by
  rw [Plan.ofRequest, hfields, ok_bind, Plan.forCommit, hbody.polyAndDegree_eq hp]
  rfl

/-- A value is found without the key. -/
theorem ofRequest_evaluate (hfields : r.fields = .ok fields) (hbody : NamesPoly fields xs n)
    (hp : xs.mapM Value.toScalar = .ok p) (hpoint : NamesPoint fields z) {y : Fr}
    (hy : Poly.evaluate (Plan.operand p) (.scalar z) (.int n) = .ok y) :
    Plan.ofRequest E hash limit .evaluate r =
      .ok (.answer (Plan.answerFields [("evaluation", .ofFr y)])) := by
  obtain ⟨v, hv, hz⟩ := hpoint
  rw [Plan.ofRequest, hfields, ok_bind, Plan.forEvaluate, hbody.polyAndDegree_eq hp]
  simp only [ok_bind, require_eq hv, hz, hy]
  rfl

/-- A witness is asked of the key for the coefficients and the point that the body names. -/
theorem ofRequest_witness (hfields : r.fields = .ok fields) (hbody : NamesPoly fields xs n)
    (hp : xs.mapM Value.toScalar = .ok p) (hpoint : NamesPoint fields z) :
    Plan.ofRequest E hash limit .witness r = .ok (.withKey fun key => do
      let w ← E.openAt key (Plan.operand p) (.scalar z) (.int n)
      return Plan.answerFields [("witness", w.toValue), ("hex", .str w.toHex)]) := by
  obtain ⟨v, hv, hz⟩ := hpoint
  rw [Plan.ofRequest, hfields, ok_bind, Plan.forWitness, hbody.polyAndDegree_eq hp]
  simp only [ok_bind, require_eq hv, hz]
  rfl

/-- The plan of a verification: the commitment is read, and then the key is asked. -/
def verifyPlan (E : PairingSystem T) (commitment : Value) (w : Witness) : Except Failure Plan := do
  let C ← commitment.toPoint₁ E
  return .withKey fun key => do
    return Plan.answerFields [("result", .bool (← E.verify key C w))]

/-- With a commitment that can be read, verification is a question to the key. -/
theorem verifyPlan_eq {commitment : Value} {C : Point Fq}
    (hC : commitment.toPoint₁ E = .ok C) (w : Witness) :
    verifyPlan E commitment w = .ok (.withKey fun key => do
      return Plan.answerFields [("result", .bool (← E.verify key C w))]) := by
  rw [verifyPlan, hC]
  rfl

/-- A verification depends on the commitment of the body and on the witness that is read. -/
theorem ofRequest_verify (hfields : r.fields = .ok fields) {commitment witness : Value}
    (hcommitment : Value.lookup (Text.ofString "commitment") fields = some commitment)
    (hwitness : Value.lookup (Text.ofString "witness") fields = some witness) {w : Witness}
    (hw : Plan.bodyWitness E witness = .ok w) :
    Plan.ofRequest E hash limit .verify r = verifyPlan E commitment w := by
  rw [Plan.ofRequest, hfields, ok_bind, Plan.forVerify, require_eq hcommitment, ok_bind]
  simp only [require_eq hwitness, ok_bind, hw]
  rfl

/-- An answer has status 200, unless only the head is asked for. -/
theorem reply_ok (hmethod : r.method ≠ Text.ofString "HEAD") (v : Value) :
    reply r (.ok v) = ⟨200, some v⟩ := if_neg hmethod

/-- A question to the key is answered from the current one. -/
theorem request_withKey (h : r.destination = .operation route)
    (hmethod : r.method ≠ Text.ofString "HEAD") {use : Key → Except Failure Value}
    (hplan : Plan.ofRequest E hash config.limit route r = .ok (.withKey use)) {key : Key}
    (hcurrent : s.current E = .ok key) {v : Value} (huse : use key = .ok v) :
    (s.request E hash config r).1 = ⟨200, some v⟩ := by
  rw [request_of_plan s h hplan, State.perform_withKey_ok hcurrent, huse]
  exact reply_ok hmethod v

/-- Any other question is answered as it stands. -/
theorem request_answer (h : r.destination = .operation route)
    (hmethod : r.method ≠ Text.ofString "HEAD") {v : Value}
    (hplan : Plan.ofRequest E hash config.limit route r = .ok (.answer v)) :
    (s.request E hash config r).1 = ⟨200, some v⟩ := by
  rw [request_of_plan s h hplan]
  exact reply_ok hmethod v

end Service

end PolyCommit
