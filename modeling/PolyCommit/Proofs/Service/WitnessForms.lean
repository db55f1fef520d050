import PolyCommit.Proofs.Service.Body

/-!
# The form of a witness does not matter

A request for verification carries a witness as an object or as a hex text. Both forms are read as
the witness that they were made from, and nothing else of the request depends on the form. So two
requests that carry the same commitment and forms of the same witness have one plan, and what
happens to them is one and the same in every state: whether there is a key, none, or a record that
spells none, and whether the commitment can be read or not.
-/

namespace PolyCommit

namespace Service

/-- Whether a request asks for the verification of a commitment with a form of a witness. -/
structure AsksToVerify (r : Request) (commitment : Value) (w : Witness) : Prop where
  destination : r.destination = .operation .verify
  fields : ∃ fields v, r.fields = .ok fields ∧
    Value.lookup (Text.ofString "commitment") fields = some commitment ∧
    Value.lookup (Text.ofString "witness") fields = some v ∧ w.IsForm v

variable {T : Type} {E : PairingSystem T} [Mul T] [DecidableEq T] {hash : Bytes → Digest}
  {limit : ℤ} {config : Config} {s : State} {r r' : Request} {route : Route} {commitment : Value}
  {w : Witness}

/-- The plan does not depend on the form of the witness. -/
theorem AsksToVerify.plan_eq [E.g₁.Lawful] [E.g₁.OriginFree] (h : AsksToVerify r commitment w)
    (hw : w.IsContained E) : Plan.ofRequest E hash limit .verify r = verifyPlan E commitment w := by
  obtain ⟨fields, v, hfields, hcommitment, hwitness, hv⟩ := h.fields
  exact ofRequest_verify hfields hcommitment hwitness (bodyWitness_eq hw hv)

/-- Requests with one plan have the same response and leave the same state, if neither can ask for
the head alone. -/
theorem request_eq_of_plan_eq (s : State) (h : r.destination = .operation route)
    (h' : r'.destination = .operation route) (hroute : route ≠ .key)
    (hplan : Plan.ofRequest E hash config.limit route r =
      Plan.ofRequest E hash config.limit route r') :
    s.request E hash config r = s.request E hash config r' := by
  have hreply (result : Except Trouble Value) : reply r result = reply r' result := by
    rw [reply, if_neg (Request.method_ne_head h hroute), reply,
      if_neg (Request.method_ne_head h' hroute)]
  rw [request_eq s h, request_eq s h', State.handle, State.handle, hplan, hreply]

/-- A verification that has status 200 read the commitment, loaded a key and got an answer. -/
theorem exists_verify_of_status (h : r.destination = .operation .verify)
    (hplan : Plan.ofRequest E hash config.limit .verify r = verifyPlan E commitment w)
    (hstatus : (s.request E hash config r).1.status = 200) :
    ∃ key C accepted, (s.load E).1 = .ok key ∧ commitment.toPoint₁ E = .ok C ∧
      E.verify key C w = .ok accepted ∧
      (s.request E hash config r).1 =
        ⟨200, some (Plan.answerFields [("result", .bool accepted)])⟩ := by
  rw [request_eq s h, status_reply, State.handle, hplan] at hstatus
  obtain ⟨v, hresult⟩ := exists_result_of_status hstatus
  cases hC : commitment.toPoint₁ E with
  | error f =>
    rw [verifyPlan, hC] at hresult
    cases hresult
  | ok C =>
    rw [verifyPlan_eq hC] at hresult hplan
    obtain ⟨key, hcurrent, huse⟩ := State.exists_current_of_perform hresult
    obtain ⟨accepted, hverify, hv⟩ := bind_eq_ok_iff.mp huse
    have hload : (s.load E).1 = .ok key := by rw [State.load_eq_current, hcurrent]
    have hresponse := request_withKey h (Request.method_ne_head h (by decide)) hplan hcurrent huse
    rw [← Except.ok.inj hv] at hresponse
    exact ⟨key, C, accepted, hload, rfl, hverify, hresponse⟩

/-- In every state, two requests for verification that carry the same commitment and forms of the
same witness have the same response and leave the same state. If the status is 200, the response
says what verification says of the key that is loaded, the commitment that is read and the
witness. -/
theorem witness_forms_agree (hash : Bytes → Digest) (config : Config) (s : State) {r r' : Request}
    {commitment : Value} {w : Witness} (hw : w.IsContained bn254)
    (hr : AsksToVerify r commitment w) (hr' : AsksToVerify r' commitment w) :
    s.request bn254 hash config r = s.request bn254 hash config r' ∧
    ((s.request bn254 hash config r).1.status = 200 →
      ∃ key C accepted, (s.load bn254).1 = .ok key ∧ commitment.toPoint₁ bn254 = .ok C ∧
        bn254.verify key C w = .ok accepted ∧
        (s.request bn254 hash config r).1 =
          ⟨200, some (Plan.answerFields [("result", .bool accepted)])⟩) := by
  have hplan : Plan.ofRequest bn254 hash config.limit .verify r =
      Plan.ofRequest bn254 hash config.limit .verify r' := by
    rw [hr.plan_eq hw, hr'.plan_eq hw]
  constructor
  · exact request_eq_of_plan_eq s hr.destination hr'.destination (by decide) hplan
  · intro hstatus
    exact exists_verify_of_status hr.destination (hr.plan_eq hw) hstatus

/-- The witness of a constant polynomial: the base as its value at five, and no quotient. -/
def constantWitness : Witness := ⟨5, some Bn254.base₁, none⟩

/-- The hex text of that witness. -/
def constantHex : String :=
  String.ofList (List.replicate 63 '0') ++ "5" ++ String.ofList (List.replicate 63 '0') ++ "1" ++
    String.ofList (List.replicate 63 '0') ++ "2" ++ String.ofList (List.replicate 128 '0')

/-- A request for the verification of the base with that witness as an object, whose fields are in
the order of their names. -/
def constantAsObject : Request :=
  send "POST" "/kzg/verify" ("\x7b\"commitment\": [\"1\", \"2\"], \"witness\": " ++
    "\x7b\"eval_commit\": [\"1\", \"2\"], \"point\": \"5\", \"quotient_commit\": null\x7d\x7d")

/-- A request for the verification of the base with the hex text of that witness. -/
def constantAsHex : Request :=
  send "POST" "/kzg/verify"
    ("\x7b\"commitment\": [\"1\", \"2\"], \"witness\": \"" ++ constantHex ++ "\"\x7d")

/-- The fields of the object are those of the witness in another order. -/
theorem isForm_constantAsObject : constantWitness.IsForm
    (.object [(Text.ofString Witness.valueName, .list [.ofString "1", .ofString "2"]),
      (Text.ofString Witness.pointName, .ofString "5"),
      (Text.ofString Witness.quotientName, .null)]) := by
  have hfive : Value.ofFr 5 = .ofString "5" := by with_unfolding_all rfl
  have hbase : Value.ofPoint₁ (some Bn254.base₁) = .list [.ofString "1", .ofString "2"] := by
    with_unfolding_all rfl
  rw [← hfive, ← hbase]
  exact .inl (.fields (.swap _ _ _))

set_option maxRecDepth 20000 in
/-- The first request asks for the verification with the witness. -/
theorem asksToVerify_constantAsObject :
    AsksToVerify constantAsObject (.list [.ofString "1", .ofString "2"]) constantWitness where
  destination := by decide +kernel
  fields := ⟨_, _, rfl, rfl, rfl, isForm_constantAsObject⟩

set_option maxRecDepth 20000 in
/-- The second request asks for it too. -/
theorem asksToVerify_constantAsHex :
    AsksToVerify constantAsHex (.list [.ofString "1", .ofString "2"]) constantWitness where
  destination := by decide +kernel
  fields := ⟨_, _, rfl, rfl, rfl, .inr rfl⟩

/-- The state after a key with three powers was asked for. -/
def keyed : State :=
  ((State.initial []).request bn254 Sha256.hash ⟨16, false⟩
    (send "POST" "/kzg/setup" "\x7b\"t\": 2\x7d")).2

/-- With a key in the cache, the two forms of the witness get the same answer, with status 200. -/
theorem witness_forms_agree_constant : ∃ key accepted,
    (keyed.load bn254).1 = .ok key ∧
    bn254.verify key (some Bn254.base₁) constantWitness = .ok accepted ∧
    (keyed.request bn254 Sha256.hash ⟨16, false⟩ constantAsObject).1 =
      ⟨200, some (Plan.answerFields [("result", .bool accepted)])⟩ ∧
    keyed.request bn254 Sha256.hash ⟨16, false⟩ constantAsObject =
      keyed.request bn254 Sha256.hash ⟨16, false⟩ constantAsHex := by
  have hstatus : (keyed.request bn254 Sha256.hash ⟨16, false⟩ constantAsObject).1.status = 200 := by
    decide +kernel
  have hbase : (Value.list [.ofString "1", .ofString "2"]).toPoint₁ bn254 =
      .ok (some Bn254.base₁) := rfl
  obtain ⟨hsame, hanswer⟩ := witness_forms_agree Sha256.hash ⟨16, false⟩ keyed
    ⟨PointGroup.Lawful.contains_base (G := bn254.g₁), PointGroup.Lawful.contains_none⟩
    asksToVerify_constantAsObject asksToVerify_constantAsHex
  obtain ⟨key, C, accepted, hload, hC, hverify, hresponse⟩ := hanswer hstatus
  rw [← Except.ok.inj (hbase.symm.trans hC)] at hverify
  exact ⟨key, accepted, hload, hverify, hresponse, hsame⟩

end Service

end PolyCommit
