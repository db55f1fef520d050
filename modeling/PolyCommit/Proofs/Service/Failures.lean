import PolyCommit.Proofs.Commitment.Refusals
import PolyCommit.Proofs.Service.Completeness
import PolyCommit.Proofs.Value.Overlong
import PolyCommit.Proofs.Value.Reader

/-!
# When the service fails internally

A request to an operation by a method that it takes is answered, or refused with a kind and a
sentence, or told that there is no key. There are three exceptions, all faults that nothing turns
into a refusal: a numeral of too many digits somewhere in the body, the hex form of a key with more
points than its counts have room for, and a limit on new keys that has too many digits itself. The
integers in a body can always be quoted, because a body is read as a document.
-/

namespace PolyCommit

/-! ### Readers of a body -/

namespace Request

variable {r : Request} {fields : List (Text × Value)}

/-- Whether a numeral of too many digits stands in the body. -/
def HasOverlong (r : Request) : Prop := ∃ v, r.json? = some v ∧ v.HasOverlong

/-- A body without fields is malformed. -/
theorem fails_fields : Fails Failure.IsMalformed r.fields := by
  unfold Request.fields
  split
  · exact .ok
  · exact .error ⟨_, rfl⟩

/-- The fields of a body are those of an object that stands in it. -/
theorem json?_of_fields (h : r.fields = .ok fields) : r.json? = some (.object fields) := by
  unfold Request.fields at h
  split at h
  · next hjson =>
    cases h
    exact hjson
  · cases h

/-- The fields of a body can be written, because the body is a document. -/
theorem isWritable_of_fields (h : r.fields = .ok fields) :
    (Value.object fields).isWritable = true := by
  have hjson := json?_of_fields h
  unfold json? at hjson
  split at hjson
  · exact Value.isWritable_of_ofDocument? hjson
  · cases hjson

/-- The fields of a body without a numeral of too many digits have short numerals. -/
theorem hasShortNumerals_of_fields (h : ¬r.HasOverlong) (hfields : r.fields = .ok fields) :
    (Value.object fields).HasShortNumerals :=
  ⟨fun hlong => h ⟨_, json?_of_fields hfields, hlong⟩, isWritable_of_fields hfields⟩

/-- What is read off the fields of a body without such a numeral is refused, if it fails. -/
theorem fails_fields_bind {α : Type} {f : List (Text × Value) → Except Failure α}
    (h : ¬r.HasOverlong)
    (hf : ∀ fields, (Value.object fields).HasShortNumerals → Fails Failure.IsRefused (f fields)) :
    Fails Failure.IsRefused (r.fields >>= f) :=
  .bind (fails_fields.imp Failure.IsMalformed.isRefused) fun fields hfields =>
    hf fields (hasShortNumerals_of_fields h hfields)

/-- What is read off a field that has to be there is refused, if it fails. -/
theorem fails_require_bind {α : Type} {f : Value → Except Failure α}
    (h : (Value.object fields).HasShortNumerals) {name : String}
    (hf : ∀ v, v.HasShortNumerals → Fails Failure.IsRefused (f v)) :
    Fails Failure.IsRefused (require name fields >>= f) := by
  unfold require
  split
  · next v hlookup => exact hf v (h.of_lookup hlookup)
  · exact .error ⟨_, rfl⟩

end Request

namespace Witness

variable {T : Type} (E : PairingSystem T) {v : Value}

/-- A failure to read a field of a witness comes of the value, if what is done with the field fails
for that reason. -/
theorem fails_witnessField_bind {α : Type} {f : Value → Except Failure α} {name : String}
    (hf : ∀ w, v.field name = .ok w → Fails (Failure.ComesOf v) (f w)) :
    Fails (Failure.ComesOf v) (witnessField name v >>= f) := by
  unfold witnessField
  split
  · next w hw => exact hf w hw
  · exact .error (.inl ⟨_, rfl⟩)

/-- A failure to read a witness comes of the value. -/
theorem fails_ofValue : Fails (Failure.ComesOf v) (ofValue E v) := by
  refine fails_witnessField_bind fun a ha =>
    .bind ((Value.fails_toScalar a).of_part fun hv => hv.of_field ha) fun _ _ => ?_
  refine fails_witnessField_bind fun b hb =>
    .bind ((Value.fails_toPoint₁ E b).of_part fun hv => hv.of_field hb) fun _ _ => ?_
  exact fails_witnessField_bind fun c hc =>
    .bind ((Value.fails_toPoint₁ E c).of_part fun hv => hv.of_field hc) fun _ _ => .ok

/-- A value that is no witness in hex is malformed. -/
theorem fails_ofHex : Fails Failure.IsMalformed (ofHex E v) := by
  unfold ofHex
  split
  · split
    · exact fails_ofBytes
    · exact .error ⟨_, rfl⟩
  · exact .error ⟨_, rfl⟩

end Witness

namespace Plan

variable {T : Type} {E : PairingSystem T} {fields : List (Text × Value)}

/-- A failure to read the witness of a body comes of the value. -/
theorem fails_bodyWitness (v : Value) : Fails (Failure.ComesOf v) (bodyWitness E v) := by
  unfold bodyWitness
  split
  · exact (Witness.fails_ofHex E).imp fun _ => .inl
  · exact Witness.fails_ofValue E

/-- The witness of a body consists of members. -/
theorem yields_bodyWitness [E.g₁.Lawful] [E.g₁.OriginFree] (v : Value) :
    Yields (Witness.IsContained E) (bodyWitness E v) := by
  unfold bodyWitness
  split
  · exact Witness.yields_ofHex _
  · exact Witness.yields_ofValue _

/-- A body whose numerals are short has a polynomial and a degree or is refused. -/
theorem fails_polyAndDegree (h : (Value.object fields).HasShortNumerals) :
    Fails Failure.IsRefused (polyAndDegree fields) :=
  Request.fails_require_bind h fun v hv =>
    .bind ((Value.fails_toPoly v).isRefused hv) fun _ _ => .ok

/-- The degree of a body can be quoted, or counts all coefficients. -/
theorem isQuotable_of_polyAndDegree (h : (Value.object fields).isWritable = true) {p : Poly}
    {degree : Value} (hread : polyAndDegree fields = .ok (p, degree)) :
    Outcome.IsQuotable (p.map .scalar) degree := by
  obtain ⟨v, -, hread⟩ := bind_eq_ok_iff.mp hread
  obtain ⟨q, -, hread⟩ := bind_eq_ok_iff.mp hread
  cases hread
  cases hdegree : Value.lookup (Text.ofString "degree") fields with
  | none => exact .inr ⟨p.length, (List.length_map _).ge, rfl⟩
  | some v => exact .inl (Value.isWritable_of_lookup h hdegree)

variable [Mul T] [DecidableEq T] {hash : Bytes → Digest} {limit : ℤ} {route : Route} {r : Request}

/-- A body without a numeral of too many digits becomes a plan or is refused, if the limit can be
quoted. -/
theorem fails_ofRequest (h : ¬r.HasOverlong)
    (hlimit : route = .setup → (Value.int limit).isWritable = true) :
    Fails Failure.IsRefused (ofRequest E hash limit route r) := by
  have hscalar {v : Value} (hv : v.HasShortNumerals) : Fails Failure.IsRefused v.toScalar :=
    (Value.fails_toScalar v).isRefused hv
  have hpoint {v : Value} (hv : v.HasShortNumerals) : Fails Failure.IsRefused (v.toPoint₁ E) :=
    (Value.fails_toPoint₁ E v).isRefused hv
  cases route with
  | key => exact .ok
  | reset => exact .ok
  | setup =>
    refine Request.fails_fields_bind h fun fields hfields => ?_
    refine Request.fails_require_bind hfields fun v hv => ?_
    split
    · have hquoted : ((Value.int limit).isWritable && v.isWritable) = true := by
        rw [hlimit rfl, hv.integers, Bool.and_self]
      have hrefusal : (Refusal.malformed (.boundAboveLimit limit v)).isWritable = true := hquoted
      rw [Failure.quoting_eq hrefusal]
      exact .error ⟨_, rfl⟩
    · exact .ok
  | commit =>
    exact Request.fails_fields_bind h fun fields hfields =>
      .bind (fails_polyAndDegree hfields) fun _ _ => .ok
  | evaluate =>
    refine Request.fails_fields_bind h fun fields hfields => ?_
    refine .bind (fails_polyAndDegree hfields) fun ⟨p, degree⟩ hread => ?_
    have hquote := isQuotable_of_polyAndDegree hfields.integers hread
    refine Request.fails_require_bind hfields fun v hv => .bind (hscalar hv) fun _ _ => ?_
    exact .bind (Poly.fails_evaluate hquote) fun _ _ => .ok
  | challenge =>
    refine Request.fails_fields_bind h fun fields hfields => ?_
    refine Request.fails_require_bind hfields fun v hv => ?_
    split
    · next a b c =>
      have hentry {w : Value} (hw : w ∈ [a, b, c]) : Fails Failure.IsRefused (w.toPoint₁ E) :=
        hpoint (hv.of_mem_entries rfl hw)
      exact .bind (hentry (by simp)) fun _ _ => .bind (hentry (by simp)) fun _ _ =>
        .bind (hentry (by simp)) fun _ _ => .ok
    · exact .error ⟨_, rfl⟩
  | witness =>
    refine Request.fails_fields_bind h fun fields hfields => ?_
    refine .bind (fails_polyAndDegree hfields) fun _ _ => ?_
    exact Request.fails_require_bind hfields fun v hv => .bind (hscalar hv) fun _ _ => .ok
  | verify =>
    refine Request.fails_fields_bind h fun fields hfields => ?_
    refine Request.fails_require_bind hfields fun v hv => .bind (hpoint hv) fun _ _ => ?_
    exact Request.fails_require_bind hfields fun w hw =>
      .bind ((fails_bodyWitness w).isRefused hw) fun _ _ => .ok

/-- The bound of a new key that a request asks for can be quoted. -/
theorem isWritable_of_ofRequest {bound : Value}
    (h : ofRequest E hash limit route r = .ok (.setup bound)) : bound.isWritable = true := by
  have hsetup : route = .setup := by
    by_contra hsetup
    by_cases hreset : route = .reset
    · cases hreset
      cases h
    · exact Service.yields_isQuestion hash r hsetup hreset _ h
  rw [hsetup] at h
  obtain ⟨fields, hfields, h⟩ := bind_eq_ok_iff.mp h
  obtain ⟨v, hv, h⟩ := bind_eq_ok_iff.mp h
  split at h
  · cases h
  · cases h
    unfold Request.require at hv
    split at hv
    · next hlookup =>
      cases hv
      exact Value.isWritable_of_lookup (Request.isWritable_of_fields hfields) hlookup
    · cases hv

/-- Whether a request asks for the key in hex. -/
def AsksForHex (route : Route) (r : Request) : Prop :=
  route = .key ∧ r.target.argument? "format" = some (Text.ofString "hex")

/-- Whether a plan that asks a key refuses it, if it fails. -/
def RefusesFor (key : Key) : Plan → Prop
  | withKey use => Fails Failure.IsRefused (use key)
  | _ => True

/-- The operations on a key of members refuse, if they fail, unless the key is asked for in hex and
cannot be counted. -/
theorem yields_refusesFor [E.g₁.Lawful] [E.g₁.OriginFree] [E.g₂.Lawful] (hE : E.IsTotal) {key : Key}
    (hkey : key.IsContained E) (hcount : AsksForHex route r → key.isCountable = true) :
    Yields (RefusesFor key) (ofRequest E hash limit route r) := by
  cases route with
  | reset => exact .ok trivial
  | key =>
    refine .ok ?_
    change Fails Failure.IsRefused
      (if r.target.argument? "format" = some (Text.ofString "hex") then _ else _)
    split
    · next hhex =>
      rw [Key.encodeHex, if_pos (hcount ⟨rfl, hhex⟩)]
      exact .ok
    · exact .ok
  | setup =>
    refine .bind fun fields => .bind fun v => ?_
    split
    · exact .error
    · exact .ok trivial
  | commit =>
    intro plan hplan
    obtain ⟨fields, hfields, hplan⟩ := bind_eq_ok_iff.mp hplan
    obtain ⟨⟨p, degree⟩, hread, hplan⟩ := bind_eq_ok_iff.mp hplan
    have hquote := isQuotable_of_polyAndDegree (Request.isWritable_of_fields hfields) hread
    rw [← Except.ok.inj hplan]
    exact .bind (PairingSystem.fails_commit hquote) fun _ _ => .ok
  | evaluate =>
    exact .bind fun _ => .bind fun _ => .bind fun _ => .bind fun _ => .bind fun _ => .ok trivial
  | challenge =>
    refine .bind fun _ => .bind fun _ => ?_
    split
    · exact .bind fun _ => .bind fun _ => .bind fun _ => .ok trivial
    · exact .error
  | witness =>
    intro plan hplan
    obtain ⟨fields, hfields, hplan⟩ := bind_eq_ok_iff.mp hplan
    obtain ⟨⟨p, degree⟩, hread, hplan⟩ := bind_eq_ok_iff.mp hplan
    obtain ⟨v, -, hplan⟩ := bind_eq_ok_iff.mp hplan
    obtain ⟨z, -, hplan⟩ := bind_eq_ok_iff.mp hplan
    have hquote := isQuotable_of_polyAndDegree (Request.isWritable_of_fields hfields) hread
    rw [← Except.ok.inj hplan]
    exact .bind (PairingSystem.fails_openAt hquote) fun _ _ => .ok
  | verify =>
    refine .bind fun fields => .bind fun a => fun plan hplan => ?_
    obtain ⟨C, hC, hplan⟩ := bind_eq_ok_iff.mp hplan
    obtain ⟨b, -, hplan⟩ := bind_eq_ok_iff.mp hplan
    obtain ⟨w, hw, hplan⟩ := bind_eq_ok_iff.mp hplan
    rw [← Except.ok.inj hplan]
    exact .bind (PairingSystem.fails_verify hE hkey (Value.yields_toPoint₁ E _ C hC)
      (yields_bodyWitness _ w hw)) fun _ _ => .ok

end Plan

/-- A bound that can be quoted is refused if it is none. -/
theorem Key.fails_bound {v : Value} (hv : v.isWritable = true) :
    Fails Failure.IsRefused (Key.bound v) := by
  unfold Key.bound
  split
  · have hrefusal : (Refusal.degree (.boundNotInteger v)).isWritable = true := hv
    rw [Failure.quoting_eq hrefusal]
    exact .error ⟨_, rfl⟩
  · next t ht =>
    rw [Value.integer?_eq_some_iff.mp ht] at hv
    have hrefusal : (Refusal.degree (.boundNotPositive t)).isWritable = true := hv
    rw [Failure.quoting_eq hrefusal]
    split
    · exact .error ⟨_, rfl⟩
    · exact .ok

/-! ### Routing -/

/-- Whether a request is one for an operation by a method that it takes. -/
structure Request.Suits (r : Request) (route : Route) : Prop where
  path : Resource.ofPath? r.target.path = some (.operation route)
  method : (Resource.operation route).allows r.verb = true

/-- Such a request reaches the operation, unless it asks for its options or is no request to this
server. -/
theorem Request.Suits.destination {r : Request} {route : Route} (h : r.Suits route) :
    r.destination = .operation route ∨ r.destination = .status 200 ∨
      r.destination = .status 400 := by
  unfold Request.destination
  dsimp only
  split
  · exact .inr (.inr rfl)
  · rw [h.path]
    dsimp only
    unfold Request.meet
    rw [h.method]
    simp only [Bool.not_true, Bool.false_eq_true, if_false]
    split
    · exact .inr (.inr rfl)
    · split
      · exact .inr (.inl rfl)
      · exact .inl rfl

namespace Service

/-! ### Responses -/

/-- The responses that a request is promised: an answer, which needs a key on the routes that use
it; a refusal with its kind and sentence; the notice that there is no key; and what the routing
answers by itself. -/
inductive IsPromised (current : Except Trouble Key) (route : Route) (r : Request) : Response → Prop
  | answer (v : Value) (h : usesKey route = true → ∃ key, current = .ok key) :
      IsPromised current route r (reply r (.ok v))
  | refusal (reason : Refusal) :
      IsPromised current route r (reply r (.error (.failure (.refused reason))))
  | missingKey (h : current = .error .missingKey) :
      IsPromised current route r (reply r (.error .missingKey))
  | routed {code : ℕ} (h : r.destination = .status code) (hcode : code = 200 ∨ code = 400) :
      IsPromised current route r ⟨code, none⟩

/-- A promised response has status 200, 400 or 409. -/
theorem IsPromised.status {current : Except Trouble Key} {route : Route} {r : Request}
    {response : Response} (h : IsPromised current route r response) :
    response.status = 200 ∨ response.status = 400 ∨ response.status = 409 := by
  cases h with
  | answer v => exact .inl (status_reply r _)
  | refusal reason => exact .inr (.inl (status_reply r _))
  | missingKey => exact .inr (.inr (status_reply r _))
  | routed _ hcode => exact hcode.imp id .inl

variable {T : Type} {E : PairingSystem T} {s : State} {route : Route} {r : Request}

/-- A fault is answered by status 500. -/
theorem status_fault (r : Request) (f : Fault) :
    (reply r (.error (.failure (.fault f)))).status = 500 :=
  status_reply r _

/-- A failure is a refusal, or a fault that has a cause. -/
theorem isPromised_or_fault {current : Except Trouble Key} {f : Failure} {cause : Prop}
    (h : ¬cause → f.IsRefused) :
    IsPromised current route r (reply r (.error (.failure f))) ∨
      (reply r (.error (.failure f))).status = 500 ∧ cause := by
  cases f with
  | refused reason => exact .inl (.refusal reason)
  | fault fault =>
    refine .inr ⟨status_fault r fault, ?_⟩
    by_contra hcause
    obtain ⟨reason, hreason⟩ := h hcause
    cases hreason

/-- What can make a request fail internally: a numeral of too many digits in its body, or a key with
too many points where the key is asked for in hex, or a limit that cannot be quoted where it is
exceeded. -/
def FaultCause (limit : ℤ) (current : Except Trouble Key) (route : Route) (r : Request) : Prop :=
  r.HasOverlong ∨
    (Plan.AsksForHex route r ∧ ∃ key, current = .ok key ∧ key.isCountable = false) ∨
    route = .setup ∧ (Value.int limit).isWritable = false

variable [E.g₁.Lawful] [E.g₁.OriginFree] [E.g₂.Lawful] [Mul T] [DecidableEq T]
  {hash : Bytes → Digest} {config : Config}

/-- Carrying out the plan of a request gives a promised response, or fails for a cause. -/
theorem perform_promised (hE : E.IsTotal)
    (hcurrent : s.current E = .error .missingKey ∨
      ∃ key, s.current E = .ok key ∧ key.IsContained E)
    {plan : Plan} (hplan : Plan.ofRequest E hash config.limit route r = .ok plan) :
    IsPromised (s.current E) route r (reply r (s.perform E plan).1) ∨
      (reply r (s.perform E plan).1).status = 500 ∧
        FaultCause config.limit (s.current E) route r := by
  have hother (hquestion : ¬∃ use, plan = .withKey use) (v : Value) :
      IsPromised (s.current E) route r (reply r (.ok v)) :=
    .answer v fun huses => absurd (yields_withKey hash r huses plan hplan) hquestion
  cases plan with
  | answer v => exact .inl (hother (by simp) v)
  | reset => exact .inl (hother (by simp) _)
  | setup bound =>
    rw [State.perform]
    cases hbound : Key.bound bound with
    | error f =>
      rw [Key.generate_of_bound_error hbound]
      exact isPromised_or_fault fun _ =>
        Key.fails_bound (Plan.isWritable_of_ofRequest hplan) f hbound
    | ok t =>
      obtain ⟨key, -, hgenerate, -⟩ := Key.exists_generate (E := E) hbound s.draws
      rw [hgenerate]
      exact .inl (hother (by simp) _)
  | withKey use =>
    obtain hmissing | ⟨key, hkey, hcontained⟩ := hcurrent
    · rw [State.perform_withKey_error hmissing]
      exact .inl (.missingKey hmissing)
    · rw [State.perform_withKey_ok hkey]
      cases huse : use key with
      | ok v => exact .inl (.answer v fun _ => ⟨key, hkey⟩)
      | error f =>
        refine isPromised_or_fault fun hcause => ?_
        have hcount (hhex : Plan.AsksForHex route r) : key.isCountable = true := by
          by_contra hcount
          exact hcause (.inr (.inl ⟨hhex, key, hkey, Bool.eq_false_iff.mpr hcount⟩))
        exact Plan.yields_refusesFor hE hcontained hcount _ hplan f huse

/-- Handling a request gives a promised response, or fails for a cause. -/
theorem handle_promised (hE : E.IsTotal)
    (hcurrent : s.current E = .error .missingKey ∨
      ∃ key, s.current E = .ok key ∧ key.IsContained E) :
    IsPromised (s.current E) route r (reply r (s.handle E hash config route r).1) ∨
      (reply r (s.handle E hash config route r).1).status = 500 ∧
        FaultCause config.limit (s.current E) route r := by
  rw [State.handle]
  cases hplan : Plan.ofRequest E hash config.limit route r with
  | ok plan => exact perform_promised hE hcurrent hplan
  | error f =>
    refine isPromised_or_fault fun hcause => ?_
    have hlimit (hsetup : route = .setup) : (Value.int config.limit).isWritable = true := by
      by_contra hunwritable
      exact hcause (.inr (.inr ⟨hsetup, Bool.eq_false_iff.mpr hunwritable⟩))
    exact Plan.fails_ofRequest (fun hlong => hcause (.inl hlong)) hlimit f hplan

omit [E.g₁.OriginFree] in
/-- In a session the current key is missing or a key of members. -/
theorem current_stateAfter (hash : Bytes → Digest) (config : Config) (draws : Draws)
    (inputs : List Input) :
    (stateAfter E hash config draws inputs).current E = .error .missingKey ∨
      ∃ key, (stateAfter E hash config draws inputs).current E = .ok key ∧ key.IsContained E := by
  obtain ⟨hrepresents, hsound⟩ : Represents (stateAfter E hash config draws inputs)
      (machineAfter E hash config draws inputs) ∧ _ := agree_after hash draws inputs
  rw [hrepresents.current_eq_elim hsound]
  cases hkey : (machineAfter E hash config draws inputs).key with
  | none => exact .inl rfl
  | some key => exact .inr ⟨key, rfl, hsound key hkey⟩

/-- After any session, a request for an operation by a method that it takes has a response with
status 200, 400 or 409 as promised, or status 500; and then there is a numeral of too many digits in
its body, or it asks for the hex form of a key that has too many points for it, or it asks for a new
key where the limit has too many digits. -/
theorem responseAfter_promised (hash : Bytes → Digest) (config : Config) (draws : Draws)
    (inputs : List Input) (h : r.Suits route) :
    let current := (stateAfter bn254 hash config draws inputs).current bn254
    let response := responseAfter bn254 hash config draws inputs r
    ((response.status = 200 ∨ response.status = 400 ∨ response.status = 409) ∧
        IsPromised current route r response) ∨
      response.status = 500 ∧ FaultCause config.limit current route r := by
  intro current response
  suffices hcases : IsPromised current route r response ∨
      response.status = 500 ∧ FaultCause config.limit current route r from
    hcases.imp_left fun hpromised => ⟨hpromised.status, hpromised⟩
  have hrouted {code : ℕ} (hdestination : r.destination = .status code)
      (hcode : code = 200 ∨ code = 400) : IsPromised current route r response := by
    have hresponse : response = ⟨code, none⟩ := by
      simp only [response, responseAfter, State.request, hdestination]
    rw [hresponse]
    exact .routed hdestination hcode
  obtain hdestination | hdestination | hdestination := h.destination
  · have hresponse : response = reply r
        ((stateAfter bn254 hash config draws inputs).handle bn254 hash config route r).1 := by
      simp only [response, responseAfter, request_eq _ hdestination]
    rw [hresponse]
    exact handle_promised Bn254.isTotal (current_stateAfter hash config draws inputs)
  · exact .inl (hrouted hdestination (.inl rfl))
  · exact .inl (hrouted hdestination (.inr rfl))

/-- A request for the commitment to a constant. -/
def constantRequest : Request := send "POST" "/kzg/commit" "\x7b\"poly\": [\"3\"]\x7d"

/-- A request for a key with two powers. -/
def shortSetup : Input := .request (send "POST" "/kzg/setup" "\x7b\"t\": 1\x7d")

/-- While there is a key in memory such a request for a commitment is answered. After a restart the
key is gone, and the request is told so. -/
theorem responseAfter_promised_restart :
    constantRequest.Suits .commit ∧
      (responseAfter bn254 Sha256.hash ⟨16, false⟩ [] [shortSetup] constantRequest).status = 200 ∧
      IsPromised ((stateAfter bn254 Sha256.hash ⟨16, false⟩ [] [shortSetup]).current bn254) .commit
        constantRequest
        (responseAfter bn254 Sha256.hash ⟨16, false⟩ [] [shortSetup] constantRequest) ∧
      (responseAfter bn254 Sha256.hash ⟨16, false⟩ [] [shortSetup, .restart]
        constantRequest).status = 409 ∧
      IsPromised
        ((stateAfter bn254 Sha256.hash ⟨16, false⟩ [] [shortSetup, .restart]).current bn254) .commit
        constantRequest
        (responseAfter bn254 Sha256.hash ⟨16, false⟩ [] [shortSetup, .restart]
          constantRequest) := by
  have hsuits : constantRequest.Suits .commit := ⟨by decide +kernel, by decide +kernel⟩
  have hpromised (inputs : List Input) {code : ℕ} (hcode : code ≠ 500)
      (hstatus : (responseAfter bn254 Sha256.hash ⟨16, false⟩ [] inputs constantRequest).status =
        code) :
      IsPromised ((stateAfter bn254 Sha256.hash ⟨16, false⟩ [] inputs).current bn254) .commit
        constantRequest
        (responseAfter bn254 Sha256.hash ⟨16, false⟩ [] inputs constantRequest) := by
    obtain ⟨-, hpromised⟩ | ⟨hfault, -⟩ :=
      responseAfter_promised Sha256.hash ⟨16, false⟩ [] inputs hsuits
    · exact hpromised
    · exact absurd (hstatus.symm.trans hfault) hcode
  have hanswered : (responseAfter bn254 Sha256.hash ⟨16, false⟩ [] [shortSetup]
      constantRequest).status = 200 := by
    decide +kernel
  have hmissing : (responseAfter bn254 Sha256.hash ⟨16, false⟩ [] [shortSetup, .restart]
      constantRequest).status = 409 := by
    decide +kernel
  exact ⟨hsuits, hanswered, hpromised _ (by decide) hanswered, hmissing,
    hpromised _ (by decide) hmissing⟩

/-! ### Long numerals -/

omit [E.g₁.Lawful] [E.g₁.OriginFree] [E.g₂.Lawful] in
/-- A request for a commitment fails internally, whatever came before it, if its first coefficient
is a numeral of too many digits. -/
theorem status_of_overlong (hash : Bytes → Digest) (config : Config) (draws : Draws)
    (inputs : List Input) (h : r.destination = .operation .commit) {fields : List (Text × Value)}
    (hfields : r.fields = .ok fields) {numeral : Text} {rest : List Value}
    (hpoly : Value.lookup (Text.ofString "poly") fields = some (.list (.str numeral :: rest)))
    (hnumeral : numeral.decimal = .tooLong) :
    (responseAfter E hash config draws inputs r).status = 500 := by
  have hscalar : (Value.str numeral).toScalar = .error .badValue := by
    simp only [Value.toScalar, Value.toResidue, Value.toDecimal, hnumeral, error_bind]
  have hread : (Value.list (.str numeral :: rest)).toPoly = .error .badValue := by
    rw [Value.toPoly, List.mapM_cons, hscalar, error_bind]
  have hplan : Plan.ofRequest E hash config.limit .commit r = .error .badValue := by
    rw [Plan.ofRequest, hfields, ok_bind, Plan.forCommit, Plan.polyAndDegree, require_eq hpoly,
      ok_bind, hread, error_bind, error_bind]
  rw [responseAfter, request_eq _ h, State.handle, hplan]
  exact status_fault r .badValue

/-- The digit zero. -/
def zeroDigit : CodePoint := CodePoint.ofChar '0'

/-- Zeros are digits of value zero. -/
theorem mapM_digit?_zeros (n : ℕ) :
    (List.replicate n zeroDigit).mapM CodePoint.digit? = some (List.replicate n 0) := by
  have hdigit : zeroDigit.digit? = some 0 := by decide
  induction n with
  | zero => rfl
  | succ n ih =>
    rw [List.replicate_succ, List.mapM_cons, hdigit, ih]
    rfl

/-- More zeros than the limit are a numeral of too many digits. -/
theorem decimal_zeros {n : ℕ} (hn : Text.digitLimit < n) :
    Text.decimal (List.replicate n zeroDigit) = .tooLong := by
  have hne : List.replicate n zeroDigit ≠ [] :=
    List.ne_nil_of_length_pos (by rw [List.length_replicate]; omega)
  rw [Text.decimal_of_digits (mapM_digit?_zeros n) hne, Text.Reading.ofDigits,
    List.length_replicate, if_pos hn]

/-- A request for a commitment whose only coefficient is zero in many digits. -/
def zeros (n : ℕ) : Request :=
  { send "POST" "/kzg/commit" "" with
    body := Text.asciiBytes
      (Value.polyOpening ++ (List.replicate n zeroDigit ++ Value.polyClosing)) }

/-- The fields of the request for a commitment to such a numeral. -/
theorem fields_zeros (n : ℕ) : (zeros n).fields =
    .ok [(Text.ofString "poly", .list [.str (List.replicate n zeroDigit)])] := by
  have hplain : ∀ c ∈ List.replicate n zeroDigit, Value.IsPlain c := by
    intro c hc
    rw [List.eq_of_mem_replicate hc]
    exact ⟨by decide, by decide, by decide, by decide⟩
  have hisJson : (zeros n).isJson = true := by
    change (send "POST" "/kzg/commit" "").isJson = true
    decide +kernel
  have hjson : (zeros n).json? = some (Value.polyOf (List.replicate n zeroDigit)) := by
    rw [Request.json?, if_pos hisJson]
    exact Value.ofDocument?_poly hplain
  rw [Request.fields, hjson, Value.polyOf]

/-- One digit more than the limit makes such a request fail internally. -/
theorem status_zeros :
    (zeros (Text.digitLimit + 1)).Suits .commit ∧
      (responseAfter bn254 Sha256.hash ⟨16, false⟩ [] [] (zeros (Text.digitLimit + 1))).status =
        500 := by
  have hdestination : (zeros (Text.digitLimit + 1)).destination = .operation .commit := by
    change (send "POST" "/kzg/commit" "").destination = .operation .commit
    decide +kernel
  have hsuits : (send "POST" "/kzg/commit" "").Suits .commit :=
    ⟨by decide +kernel, by decide +kernel⟩
  exact ⟨⟨hsuits.path, hsuits.method⟩,
    status_of_overlong _ _ _ _ hdestination (fields_zeros _) rfl
      (decimal_zeros (Nat.lt_succ_self _))⟩

end Service

end PolyCommit
