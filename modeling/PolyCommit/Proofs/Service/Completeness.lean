import PolyCommit.Proofs.Service.Body
import PolyCommit.Proofs.Commitment.Verification
import PolyCommit.Proofs.Key.Bytes
import PolyCommit.Proofs.Witness.Codec

/-!
# Honest sessions are accepted

After a request for a new key has been accepted, the service answers every later request from that
key until something replaces it: another new key, a reset, or a restart that the record does not
outlive. So what it returns for a polynomial does not depend on when it is asked, and it accepts its
own commitments and witnesses, as values and in hex, because every point that it writes is a member
that it reads back.
-/

namespace PolyCommit

namespace Service

variable {T : Type} [Mul T] [DecidableEq T] {E : PairingSystem T}

/-! ### Honest openings -/

/-- Whether a commitment, a value and a witness are those of a polynomial at a point, and are such
that verification accepts them and every reader takes them. -/
structure IsHonest (E : PairingSystem T) (key : Key) (p : Poly) (n : ℕ) (z : Fr) (C : Point Fq)
    (y : Fr) (w : Witness) : Prop where
  commit : E.commit key (Plan.operand p) (.int n) = .ok C
  evaluate : Poly.evaluate (Plan.operand p) (.scalar z) (.int n) = .ok y
  openAt : E.openAt key (Plan.operand p) (.scalar z) (.int n) = .ok w
  verify : E.verify key C w = .ok true
  contains : E.g₁.contains C = true
  isContained : w.IsContained E
  value_eq : w.value = key.multiple₁ E.g₁ y

/-- Under a ladder every polynomial and point in range have an honest opening. -/
theorem exists_isHonest [One T] [E.g₁.Lawful] [E.g₂.Lawful] (hE : E.IsBilinear) {key : Key}
    {k₁ k₂ a : Fr} {size : ℕ}
    (hkey : Key.IsLadder E key (k₁ • E.g₁.generator) (k₂ • E.g₂.generator) a size) {p : Poly}
    {n : ℕ} (hn : 2 ≤ n) (hlength : n ≤ p.length) (hsize : n ≤ size) (z : Fr) :
    ∃ C y w, IsHonest E key p n z C y w := by
  have hoperands : n ≤ (p.map Value.scalar).length := by rwa [List.length_map]
  have hp : Poly.StandFor ((p.map Value.scalar).take n) (p.take n) := by
    rw [← List.map_take]
    exact Poly.standFor_scalar _
  have hne : p.take n ≠ [] := List.ne_nil_of_length_pos (by rw [List.length_take]; omega)
  exact ⟨_, _, _,
    { commit := PairingSystem.commit_ladder hkey (by omega) hsize hoperands hp
      evaluate := Poly.evaluate_list hoperands hp z
      openAt := PairingSystem.openAt_ladder hkey hn hsize hoperands hp z
      verify := PairingSystem.verify_ladder_quotientAt hE hkey (by omega) hne z
      contains := PointGroup.Member.contains_point _
      isContained := ⟨PointGroup.Member.contains_point _, PointGroup.Member.contains_point _⟩
      value_eq := (hkey.multiple₁_eq (by omega) _).symm }⟩

/-! ### How long a key stays -/

/-- Whether an input cannot replace the key: it is no reset and no acceptable request for a new key,
and if it is a restart, the record outlives it. -/
def Input.KeepsKey (config : Config) : Input → Prop
  | .request r => r.destination ≠ .operation .reset ∧
      (r.destination = .operation .setup → ¬∃ t, r.bound? = some t ∧ 1 ≤ t ∧ t ≤ config.limit)
  | .restart => config.durable = true

/-- The state after the inputs of a session. -/
def stateAfter (E : PairingSystem T) (hash : Bytes → Digest) (config : Config) (draws : Draws)
    (inputs : List Input) : State :=
  ((State.initial draws).run E hash config (inputs.map Input.event)).2

/-- The response to a request after the inputs of a session. -/
def responseAfter (E : PairingSystem T) (hash : Bytes → Digest) (config : Config) (draws : Draws)
    (inputs : List Input) (r : Request) : Response :=
  ((stateAfter E hash config draws inputs).request E hash config r).1

/-- The machine after the inputs of a session. -/
def machineAfter (E : PairingSystem T) (hash : Bytes → Digest) (config : Config) (draws : Draws)
    (inputs : List Input) : Machine :=
  ((Machine.initial draws).run E hash config inputs).2

/-- A session can be taken in two parts. -/
theorem Machine.run_append (hash : Bytes → Digest) (config : Config) (m : Machine)
    (first rest : List Input) :
    (m.run E hash config (first ++ rest)).2 =
      ((m.run E hash config first).2.run E hash config rest).2 := by
  induction first generalizing m with
  | nil => rfl
  | cons i first ih => exact ih (m.step E hash config i).2

omit [Mul T] [DecidableEq T] in
/-- The current key is the machine's, if it has one. -/
theorem Represents.current_eq_elim {s : State} {m : Machine} (h : Represents s m)
    (hm : m.IsSound E) : s.current E = m.key.elim (.error .missingKey) .ok := by
  rw [← State.load_fst]
  exact (load_eq h hm).1

omit [Mul T] [DecidableEq T] in
/-- The current key of a state is the key of its machine. -/
theorem Represents.current_eq {s : State} {m : Machine} (h : Represents s m) (hm : m.IsSound E)
    {key : Key} (hkey : m.key = some key) : s.current E = .ok key := by
  rw [h.current_eq_elim hm, hkey]
  rfl

section Stability

variable [E.g₁.Lawful] [E.g₂.Lawful] (hash : Bytes → Digest) {config : Config} {draws : Draws}

/-- An input that cannot replace the key leaves the machine as it is. -/
theorem Machine.step_of_keepsKey (m : Machine) {i : Input} (h : i.KeepsKey config) :
    (m.step E hash config i).2 = m := by
  cases i with
  | restart =>
    have hdurable : config.durable = true := h
    simp only [Machine.step, hdurable, if_true]
  | request r =>
    have htransition := transition (E := E) hash config.limit m r
    exact htransition.other
      (fun hsetup hstatus => h.2 hsetup ((htransition.accepts hsetup).mp hstatus)) h.1

/-- Inputs that keep the key change nothing. -/
theorem Machine.run_of_keepsKey (m : Machine) {inputs : List Input}
    (h : ∀ i ∈ inputs, i.KeepsKey config) : (m.run E hash config inputs).2 = m := by
  induction inputs with
  | nil => rfl
  | cons i rest ih =>
    obtain ⟨hi, hrest⟩ := List.forall_mem_cons.mp h
    change ((m.step E hash config i).2.run E hash config rest).2 = m
    rw [Machine.step_of_keepsKey hash m hi, ih hrest]

/-- Inputs that cannot replace the key leave the machine as a request left it. -/
theorem machineAfter_append_cons (before : List Input) (r : Request) {rest : List Input}
    (hrest : ∀ i ∈ rest, i.KeepsKey config) :
    machineAfter E hash config draws (before ++ .request r :: rest) =
      (Machine.request E hash config.limit (machineAfter E hash config draws before) r).2 := by
  rw [machineAfter, Machine.run_append]
  exact Machine.run_of_keepsKey hash _ hrest

/-- A session leaves a state that stands for the machine. -/
theorem agree_after (draws : Draws) (inputs : List Input) :
    Represents (stateAfter E hash config draws inputs) (machineAfter E hash config draws inputs) ∧
      (machineAfter E hash config draws inputs).IsSound E := by
  have hagree := run_agree (E := E) hash (represents_initial draws) nofun config inputs
  exact ⟨hagree.represents, hagree.sound⟩

/-- The responses are those of the machine. -/
theorem responseAfter_eq (inputs : List Input) (r : Request) :
    responseAfter E hash config draws inputs r =
      (Machine.request E hash config.limit (machineAfter E hash config draws inputs) r).1 := by
  obtain ⟨hrepresents, hsound⟩ := agree_after (E := E) hash draws inputs
  exact (request_agree hash hrepresents hsound config r).result

/-- A request for a new key has status 200 exactly for an integer between one and the limit. -/
theorem responseAfter_status_iff {inputs : List Input} {r : Request}
    (h : r.destination = .operation .setup) :
    (responseAfter E hash config draws inputs r).status = 200 ↔
      ∃ t, r.bound? = some t ∧ 1 ≤ t ∧ t ≤ config.limit := by
  rw [responseAfter_eq]
  exact (transition (E := E) hash config.limit _ r).accepts h

/-- An accepted request for a new key makes a ladder of it, which is current until something
replaces it. -/
theorem exists_current {before : List Input} {r₀ : Request} {t : ℕ}
    (hsetup : r₀.destination = .operation .setup) (hbound : r₀.bound? = some (t : ℤ))
    (haccepted : (responseAfter E hash config draws before r₀).status = 200) :
    ∃ (key : Key) (k₁ k₂ a : Fr),
      Key.IsLadder E key (k₁ • E.g₁.generator) (k₂ • E.g₂.generator) a (t + 1) ∧
      ∀ rest : List Input, (∀ i ∈ rest, i.KeepsKey config) →
        (stateAfter E hash config draws (before ++ .request r₀ :: rest)).current E = .ok key := by
  rw [responseAfter_eq] at haccepted
  obtain ⟨t', key, ht', -, -, hkey, hmachine⟩ :=
    (transition (E := E) hash config.limit _ r₀).setup hsetup haccepted
  obtain rfl : t' = t := Option.some.inj (ht'.symm.trans hbound)
  obtain ⟨key', hkey', hladder⟩ := Key.exists_ofSecrets (E := E) (Secrets.draw_isProper _) t
  obtain rfl : key' = key := Except.ok.inj (hkey'.symm.trans hkey)
  refine ⟨key', _, _, _, hladder, fun rest hrest => ?_⟩
  obtain ⟨hrepresents, hsound⟩ :=
    agree_after (E := E) hash draws (before ++ .request r₀ :: rest)
  refine hrepresents.current_eq hsound ?_
  rw [machineAfter_append_cons hash before r₀ hrest, hmachine]

end Stability

/-! ### What the service serves of a key -/

/-- The response with status 200 and some fields. -/
def success (fields : List (String × Value)) : Response := ⟨200, some (Plan.answerFields fields)⟩

/-- Whether the service serves a key after some inputs: as a value that is read as the key whatever
the order of its fields, and as a hex text that is read as the key unless the key has too many
points for the hex form. -/
structure Serves (E : PairingSystem T) (hash : Bytes → Digest) (config : Config) (draws : Draws)
    (inputs : List Input) (key : Key) : Prop where
  value : ∀ r, r.destination = .operation .key → r.method ≠ Text.ofString "HEAD" →
    r.target.argument? "format" ≠ some (Text.ofString "hex") →
    ∃ v, responseAfter E hash config draws inputs r = success [("key", v)] ∧
      ∀ v', v.Reordered v' → Key.ofValue E v' = .ok key
  hex : ∀ r, r.destination = .operation .key → r.method ≠ Text.ofString "HEAD" →
    r.target.argument? "format" = some (Text.ofString "hex") →
    (∃ s, responseAfter E hash config draws inputs r = success [("key", .str s)] ∧
        Key.ofHex E (.str s) = .ok key) ∨
      2 ^ 32 ≤ key.size₁ ∧ (responseAfter E hash config draws inputs r).status = 500

/-- What the service returns for a polynomial and a point. -/
structure Returned where
  commitment : Value
  evaluation : Value
  witness : Value
  hex : Text

/-- Whether the service returns these values for the first `n` of some coefficients and a point
after some inputs, and accepts the commitment with either form of the witness. -/
structure Returns (E : PairingSystem T) (hash : Bytes → Digest) (config : Config) (draws : Draws)
    (inputs : List Input) (xs : List Value) (n : ℕ) (z : Fr) (a : Returned) : Prop where
  commit : ∀ r fields, r.destination = .operation .commit → r.fields = .ok fields →
    NamesPoly fields xs n →
    responseAfter E hash config draws inputs r = success [("commitment", a.commitment)]
  evaluate : ∀ r fields, r.destination = .operation .evaluate → r.fields = .ok fields →
    NamesPoly fields xs n → NamesPoint fields z →
    responseAfter E hash config draws inputs r = success [("evaluation", a.evaluation)]
  witness : ∀ r fields, r.destination = .operation .witness → r.fields = .ok fields →
    NamesPoly fields xs n → NamesPoint fields z →
    responseAfter E hash config draws inputs r =
      success [("witness", a.witness), ("hex", .str a.hex)]
  verify : ∀ r fields v, r.destination = .operation .verify → r.fields = .ok fields →
    Value.lookup (Text.ofString "commitment") fields = some a.commitment →
    Value.lookup (Text.ofString "witness") fields = some v →
    (a.witness.Reordered v ∨ v = .str a.hex) →
    responseAfter E hash config draws inputs r = success [("result", .bool true)]

/-- The values that stand for an honest opening. -/
def Returned.ofOpening (C : Point Fq) (y : Fr) (w : Witness) : Returned :=
  ⟨.ofPoint₁ C, .ofFr y, w.toValue, w.toHex⟩

section Serving

variable [E.g₁.Lawful] [E.g₂.Lawful] [E.g₁.OriginFree] [E.g₂.OriginFree] {hash : Bytes → Digest}
  {config : Config} {draws : Draws} {inputs : List Input} {key : Key}

/-- The current key is served, and read back if it has as many points of one group as of the
other. -/
theorem serves_of_current (hcurrent : (stateAfter E hash config draws inputs).current E = .ok key)
    (hkey : key.IsContained E) (hsize : key.size₂ = key.size₁) :
    Serves E hash config draws inputs key where
  value r h hmethod hformat := by
    refine ⟨key.toValue, request_withKey h hmethod rfl hcurrent (if_neg hformat),
      fun v' => Key.ofValue_of_reordered hkey⟩
  hex r h hmethod hformat := by
    by_cases hcount : key.size₁ < 2 ^ 32
    · have hvalid : key.IsValid E := ⟨hcount, hsize.trans_lt hcount, hkey⟩
      have hencode : key.encodeHex = .ok key.toHex :=
        if_pos (Key.isCountable_iff.mpr ⟨hcount, hsize.trans_lt hcount⟩)
      refine .inl ⟨key.toHex, request_withKey h hmethod rfl hcurrent ?_, Key.ofHex_toHex hvalid⟩
      refine (if_pos hformat).trans ?_
      rw [hencode]
      rfl
    · have hencode : key.encodeHex = .error .tooLarge :=
        if_neg fun h => hcount (Key.isCountable_iff.mp h).1
      have hplan : Plan.ofRequest E hash config.limit .key r = .ok (Plan.forKey r) := rfl
      refine .inr ⟨Nat.le_of_not_lt hcount, ?_⟩
      rw [responseAfter, request_of_plan _ h hplan, Plan.forKey, State.perform_withKey_ok hcurrent,
        status_reply, if_pos hformat, hencode]
      rfl

omit [E.g₂.Lawful] [E.g₂.OriginFree] in
/-- An honest opening under the current key is returned and accepted. -/
theorem returns_of_isHonest (hcurrent : (stateAfter E hash config draws inputs).current E = .ok key)
    {xs : List Value} {p : Poly} (hp : xs.mapM Value.toScalar = .ok p) {n : ℕ} {z : Fr}
    {C : Point Fq} {y : Fr} {w : Witness} (hhonest : IsHonest E key p n z C y w) :
    Returns E hash config draws inputs xs n z (.ofOpening C y w) where
  commit r fields h hfields hbody := by
    refine request_withKey h (Request.method_ne_head h (by decide))
      (ofRequest_commit hfields hbody hp) hcurrent ?_
    rw [hhonest.commit]
    rfl
  evaluate r fields h hfields hbody hpoint :=
    request_answer h (Request.method_ne_head h (by decide))
      (ofRequest_evaluate hfields hbody hp hpoint hhonest.evaluate)
  witness r fields h hfields hbody hpoint := by
    refine request_withKey h (Request.method_ne_head h (by decide))
      (ofRequest_witness hfields hbody hp hpoint) hcurrent ?_
    rw [hhonest.openAt]
    rfl
  verify r fields v h hfields hcommitment hwitness hv := by
    have hplan : Plan.ofRequest E hash config.limit .verify r = _ :=
      (ofRequest_verify hfields hcommitment hwitness (bodyWitness_eq hhonest.isContained hv)).trans
        (verifyPlan_eq (Value.toPoint₁_ofPoint₁ E hhonest.contains) w)
    refine request_withKey h (Request.method_ne_head h (by decide)) hplan hcurrent ?_
    rw [hhonest.verify]
    rfl

end Serving

/-! ### Sessions -/

/-- After a request for a new key is accepted, the service serves the key that it made until
something replaces it; only the hex form of a key of `2³²` points or more cannot be written, because
its counts have four bytes. For every polynomial, degree and point in range it returns one
commitment, one value and one witness, whenever it is asked; the witness holds that value as a
multiple of the key's first point, and verification accepts the commitment with either form of the
witness. -/
theorem session_complete [One T] {pair : Point Fq2 → Point Fq → Option T}
    (hpair : (Bn254.system pair).IsBilinear) (hash : Bytes → Digest) (config : Config)
    (draws : Draws) (before : List Input) {r₀ : Request} {t : ℕ}
    (hsetup : r₀.destination = .operation .setup) (hbound : r₀.bound? = some (t : ℤ))
    (haccepted : (responseAfter (Bn254.system pair) hash config draws before r₀).status = 200) :
    ∃ key : Key, key.size₁ = t + 1 ∧
      (∀ rest : List Input, (∀ i ∈ rest, i.KeepsKey config) →
        Serves (Bn254.system pair) hash config draws (before ++ .request r₀ :: rest) key) ∧
      ∀ xs n z, (∀ v ∈ xs, ∃ c, Value.toScalar v = .ok c) → 2 ≤ n → n ≤ xs.length → n ≤ t + 1 →
        ∃ a : Returned,
          (∃ y v, a.evaluation.toScalar = .ok y ∧
            Witness.witnessField Witness.valueName a.witness = .ok v ∧
            v.toPoint₁ (Bn254.system pair) = .ok (key.multiple₁ Bn254.group₁ y)) ∧
          ∀ rest : List Input, (∀ i ∈ rest, i.KeepsKey config) →
            Returns (Bn254.system pair) hash config draws (before ++ .request r₀ :: rest)
              xs n z a := by
  obtain ⟨key, k₁, k₂, a, hladder, hcurrent⟩ := exists_current hash hsetup hbound haccepted
  have hsizes : key.size₂ = key.size₁ := hladder.size₂_eq.trans hladder.size₁_eq.symm
  refine ⟨key, hladder.size₁_eq, fun rest hrest =>
    serves_of_current (hcurrent rest hrest) hladder.isContained hsizes,
    fun xs n z hxs hn hlength hsize => ?_⟩
  obtain ⟨p, hp⟩ := exists_mapM_eq_ok hxs
  have hlength' : n ≤ p.length := hlength.trans_eq (mapM_eq_ok_iff.mp hp).length_eq
  obtain ⟨C, y, w, hhonest⟩ := exists_isHonest hpair hladder hn hlength' hsize z
  have hvalue : (Value.ofPoint₁ w.value).toPoint₁ (Bn254.system pair) =
      .ok (key.multiple₁ Bn254.group₁ y) := by
    rw [Value.toPoint₁_ofPoint₁ _ hhonest.isContained.value, hhonest.value_eq]
  exact ⟨.ofOpening C y w,
    ⟨y, .ofPoint₁ w.value, Value.toScalar_ofFr y, Witness.witnessField_valueName, hvalue⟩,
    fun rest hrest => returns_of_isHonest (hcurrent rest hrest) hp hhonest⟩

/-- A session in which a key is made after a restart, and then a bound above the limit is
refused. -/
def postedSession : List Input :=
  [.restart, .request (send "POST" "/kzg/setup" "\x7b\"t\": 2\x7d"),
    .request (send "POST" "/kzg/setup" "\x7b\"t\": 99\x7d")]

/-- The key of that session has three powers, and the service returns a commitment and a witness for
three coefficients, one of them no text, and accepts them with the hex text. -/
theorem session_complete_posted : ∃ (key : Key) (a : Returned), key.size₁ = 3 ∧
    Serves (Bn254.system (Bn254.logPair Ate.root)) Sha256.hash ⟨16, false⟩ [] postedSession key ∧
    responseAfter (Bn254.system (Bn254.logPair Ate.root)) Sha256.hash ⟨16, false⟩ [] postedSession
      (send "POST" "/kzg/commit" "\x7b\"poly\": [\"3\", 1, \"4\"]\x7d") =
        success [("commitment", a.commitment)] ∧
    responseAfter (Bn254.system (Bn254.logPair Ate.root)) Sha256.hash ⟨16, false⟩ [] postedSession
      (send "POST" "/kzg/witness"
        "\x7b\"poly\": [\"3\", 1, \"4\"], \"point\": 5, \"degree\": 3\x7d") =
        success [("witness", a.witness), ("hex", .str a.hex)] ∧
    ∀ r fields, r.destination = .operation .verify → r.fields = .ok fields →
      Value.lookup (Text.ofString "commitment") fields = some a.commitment →
      Value.lookup (Text.ofString "witness") fields = some (.str a.hex) →
      responseAfter (Bn254.system (Bn254.logPair Ate.root)) Sha256.hash ⟨16, false⟩ []
        postedSession r = success [("result", .bool true)] := by
  have hsetup : (send "POST" "/kzg/setup" "\x7b\"t\": 2\x7d").destination = .operation .setup := by
    decide +kernel
  have hbound : (send "POST" "/kzg/setup" "\x7b\"t\": 2\x7d").bound? = some (2 : ℕ) := by
    decide +kernel
  have hrest : ∀ i ∈ [Input.request (send "POST" "/kzg/setup" "\x7b\"t\": 99\x7d")],
      i.KeepsKey ⟨16, false⟩ := by
    refine List.forall_mem_singleton.mpr ⟨by decide +kernel, fun _ => ?_⟩
    rintro ⟨t, ht, -, hle⟩
    have hlarge : (send "POST" "/kzg/setup" "\x7b\"t\": 99\x7d").bound? = some 99 := by
      decide +kernel
    rw [hlarge] at ht
    cases ht
    exact absurd hle (by decide)
  have hscalars : ∀ v ∈ [Value.ofString "3", .int 1, .ofString "4"],
      ∃ c, Value.toScalar v = .ok c := by
    simp only [List.forall_mem_cons]
    exact ⟨⟨3, rfl⟩, ⟨1, rfl⟩, ⟨4, rfl⟩, nofun⟩
  obtain ⟨key, hsize, hserves, hreturns⟩ :=
    session_complete (Bn254.logPair_isBilinear Ate.root_pow) Sha256.hash ⟨16, false⟩ [] [.restart]
      hsetup hbound ((responseAfter_status_iff Sha256.hash hsetup).mpr
        ⟨2, hbound, by decide, by decide⟩)
  obtain ⟨a, -, ha⟩ := hreturns _ 3 5 hscalars (by decide) (by decide) (by decide)
  have hreturned := ha _ hrest
  exact ⟨key, a, hsize, hserves _ hrest,
    hreturned.commit _ _ (by decide +kernel) rfl ⟨rfl, .inr ⟨rfl, rfl⟩⟩,
    hreturned.witness _ _ (by decide +kernel) rfl ⟨rfl, .inl rfl⟩ ⟨_, rfl, rfl⟩,
    fun r fields h hfields hC hw => hreturned.verify r fields _ h hfields hC hw (.inr rfl)⟩

end Service

end PolyCommit
