import PolyCommit.Service.Session
import PolyCommit.Proofs.Key.Setup
import Mathlib.Data.List.ReduceOption

/-!
# The service is a machine with one key

The record and the cache together amount to one optional key. The machine below has that key and the
random numbers still to come, and nothing else; a session without direct writes gives the same
responses on both. Two facts carry the simulation: the record is always the key's own value and the
cache never another key, and every key that a setup makes is read back from its record, because all
of its points are members of their groups.
-/

namespace PolyCommit

/-- The integer that a request names as the bound of a new key. -/
def Request.bound? (r : Request) : Option ℤ :=
  match r.json? with
  | some (.object fields) => (Value.lookup (Text.ofString "t") fields).bind Value.integer?
  | _ => none

/-- The bound is looked up among the fields of the body, if it has fields. -/
theorem Request.fields_cases (r : Request) :
    (∃ fields, r.fields = .ok fields ∧
      r.bound? = (Value.lookup (Text.ofString "t") fields).bind Value.integer?) ∨
    (∃ f, r.fields = .error f) ∧ r.bound? = none := by
  unfold Request.fields Request.bound?
  rcases r.json? with _ | (_ | _ | _ | _ | _ | _ | fields | _)
  case some.object => exact .inl ⟨fields, rfl, rfl⟩
  all_goals exact .inr ⟨⟨_, rfl⟩, rfl⟩

namespace Service

/-- What can happen in a session whose record is not written from outside. -/
inductive Input
  | request (r : Request)
  | restart

/-- The event that an input is. -/
def Input.event : Input → Event
  | request r => .request r
  | restart => .restart

/-- The current key and the random numbers still to come. -/
structure Machine where
  key : Option Key
  draws : Draws

namespace Machine

/-- The machine before the first request. -/
def initial (draws : Draws) : Machine := ⟨none, draws⟩

/-- The answer to a question to the current key. -/
def ask (key : Option Key) (use : Key → Except Failure Value) : Except Trouble Value :=
  key.elim (.error .missingKey) fun key => lift (use key)

variable {T : Type} (E : PairingSystem T)

/-- Carry out a plan. Only a new key and a reset change the machine. -/
def perform (m : Machine) : Plan → Except Trouble Value × Machine
  | .answer v => (.ok v, m)
  | .withKey use => (ask m.key use, m)
  | .setup bound =>
    match Key.generate E bound m.draws with
    | (.ok key, draws) => (.ok (keyAnswer key), ⟨some key, draws⟩)
    | (.error f, _) => (.error (.failure f), m)
  | .reset => (.ok (Plan.answerFields [("result", .bool true)]), ⟨none, m.draws⟩)

variable [Mul T] [DecidableEq T] (hash : Bytes → Digest)

/-- The result of a request on a route, and the machine after it. -/
def handle (limit : ℤ) (m : Machine) (route : Route) (r : Request) :
    Except Trouble Value × Machine :=
  match Plan.ofRequest E hash limit route r with
  | .ok plan => m.perform E plan
  | .error f => (.error (.failure f), m)

/-- The response to a request, and the machine after it. -/
def request (limit : ℤ) (m : Machine) (r : Request) : Response × Machine :=
  match r.destination with
  | .status code => (⟨code, none⟩, m)
  | .operation route =>
    let (result, m) := m.handle E hash limit route r
    let response := respond result
    (if r.method = Text.ofString "HEAD" then Response.head response else response, m)

/-- The response to an input, if it is a request, and the machine after it. A restart keeps the key
exactly when the record outlives it. -/
def step (config : Config) (m : Machine) : Input → Option Response × Machine
  | .request r => let (response, m) := m.request E hash config.limit r; (some response, m)
  | .restart => (none, ⟨if config.durable then m.key else none, m.draws⟩)

/-- The responses to a list of inputs and the machine after them. -/
def run (config : Config) (m : Machine) : List Input → List (Option Response) × Machine
  | [] => ([], m)
  | i :: rest =>
    let (response, m) := m.step E hash config i
    let (responses, m) := m.run config rest
    (response :: responses, m)

end Machine

/-- Whether a state of the service stands for a machine: the random numbers are the same, the record
is that of the machine's key, and the cache is empty or that key. -/
structure Represents (s : State) (m : Machine) : Prop where
  draws : s.draws = m.draws
  record : s.record = m.key.map Key.toValue
  cache : s.cache = none ∨ s.cache = m.key

/-- Whether the machine's key can be read back from its record. -/
def Machine.IsSound {T : Type} (E : PairingSystem T) (m : Machine) : Prop :=
  ∀ key, m.key = some key → key.IsContained E

variable {T : Type} {E : PairingSystem T} {s : State} {m : Machine}

/-- Before the first request there is no key on either side. -/
theorem represents_initial (draws : Draws) :
    Represents (State.initial draws) (Machine.initial draws) :=
  ⟨rfl, rfl, .inl rfl⟩

/-- A machine is represented with an empty cache or with its key there. -/
theorem Represents.eq_or_eq (h : Represents s m) :
    s = ⟨m.key.map Key.toValue, none, m.draws⟩ ∨
      s = ⟨m.key.map Key.toValue, m.key, m.draws⟩ := by
  obtain ⟨record, cache, draws⟩ := s
  obtain ⟨hdraws, hrecord, hcache⟩ := h
  dsimp only at hdraws hrecord hcache
  subst hdraws hrecord
  exact hcache.imp (by rintro rfl; rfl) (by rintro rfl; rfl)

/-- The current key is the machine's, whether it comes from the cache or from the record. -/
theorem load_eq (h : Represents s m) (hm : m.IsSound E) :
    (s.load E).1 = m.key.elim (.error .missingKey) .ok ∧ Represents (s.load E).2 m := by
  obtain ⟨key, draws⟩ := m
  cases key with
  | none => obtain rfl | rfl := h.eq_or_eq <;> exact ⟨rfl, rfl, rfl, .inl rfl⟩
  | some key =>
    obtain rfl | rfl := h.eq_or_eq
    · -- only the record is left: it is decoded, which gives the key back
      have hread : Key.ofValue E key.toValue = .ok key := Key.ofValue_toValue (hm key rfl)
      have hload : State.load E ⟨some key.toValue, none, draws⟩ =
          (.ok key, ⟨some key.toValue, some key, draws⟩) := by
        rw [Key.toValue] at hread ⊢
        simp only [State.load, hread]
      rw [Option.map_some, hload]
      exact ⟨rfl, rfl, rfl, .inr rfl⟩
    · exact ⟨rfl, rfl, rfl, .inr rfl⟩

/-- A step of the service and one of the machine have the same result and leave the two alike. -/
structure Agree {α : Type} (E : PairingSystem T) (x : α × State) (y : α × Machine) : Prop where
  result : x.1 = y.1
  represents : Represents x.2 y.2
  sound : y.2.IsSound E

section Agreement

variable [E.g₁.Lawful] [E.g₂.Lawful]

/-- Both carry out a plan alike. -/
theorem perform_agree (h : Represents s m) (hm : m.IsSound E) (plan : Plan) :
    Agree E (s.perform E plan) (m.perform E plan) := by
  cases plan with
  | answer v => exact ⟨rfl, h, hm⟩
  | withKey use =>
    obtain ⟨hresult, hloaded⟩ := load_eq h hm
    rw [State.perform]
    generalize s.load E = loaded at hresult hloaded
    obtain ⟨result, s'⟩ := loaded
    dsimp only at hresult hloaded
    subst hresult
    obtain ⟨_ | key, draws⟩ := m
    · exact ⟨rfl, hloaded, hm⟩
    · exact ⟨rfl, hloaded, hm⟩
  | setup bound =>
    rw [State.perform, Machine.perform, h.draws]
    cases hbound : Key.bound bound with
    | error f =>
      rw [Key.generate_of_bound_error hbound]
      exact ⟨rfl, ⟨rfl, h.record, h.cache⟩, hm⟩
    | ok t =>
      obtain ⟨key, -, hgenerate, hcontained⟩ := Key.exists_generate (E := E) hbound m.draws
      rw [hgenerate]
      exact ⟨rfl, ⟨rfl, rfl, .inr rfl⟩, fun _ hkey => Option.some.inj hkey ▸ hcontained⟩
  | reset =>
    exact ⟨rfl, ⟨h.draws, rfl, .inl rfl⟩, fun _ hkey => absurd hkey.symm (Option.some_ne_none _)⟩

variable [Mul T] [DecidableEq T] (hash : Bytes → Digest)

/-- Both handle a request on a route alike. -/
theorem handle_agree (h : Represents s m) (hm : m.IsSound E) (config : Config) (route : Route)
    (r : Request) :
    Agree E (s.handle E hash config route r) (m.handle E hash config.limit route r) := by
  rw [State.handle, Machine.handle]
  cases Plan.ofRequest E hash config.limit route r with
  | ok plan => exact perform_agree h hm plan
  | error f => exact ⟨rfl, h, hm⟩

/-- Both respond to a request alike. -/
theorem request_agree (h : Represents s m) (hm : m.IsSound E) (config : Config) (r : Request) :
    Agree E (s.request E hash config r) (m.request E hash config.limit r) := by
  rw [State.request, Machine.request]
  cases r.destination with
  | status code => exact ⟨rfl, h, hm⟩
  | operation route =>
    obtain ⟨hresult, hrepresents, hsound⟩ := handle_agree hash h hm config route r
    exact ⟨by simp only [hresult], hrepresents, hsound⟩

/-- Both take an input alike. -/
theorem step_agree (h : Represents s m) (hm : m.IsSound E) (config : Config) (i : Input) :
    Agree E (s.step E hash config i.event) (m.step E hash config i) := by
  cases i with
  | request r =>
    obtain ⟨hresult, hrepresents, hsound⟩ := request_agree hash h hm config r
    exact ⟨congrArg some hresult, hrepresents, hsound⟩
  | restart =>
    refine ⟨rfl, ⟨h.draws, ?_, .inl rfl⟩, ?_⟩
    · change (if config.durable then s.record else none) =
        (if config.durable then m.key else none).map Key.toValue
      rw [h.record]
      split <;> rfl
    · intro key hkey
      change (if config.durable then m.key else none) = some key at hkey
      split at hkey
      · exact hm key hkey
      · cases hkey

/-- Both take a session alike. -/
theorem run_agree (h : Represents s m) (hm : m.IsSound E) (config : Config) (inputs : List Input) :
    Agree E (s.run E hash config (inputs.map Input.event)) (m.run E hash config inputs) := by
  induction inputs generalizing s m with
  | nil => exact ⟨rfl, h, hm⟩
  | cons i rest ih =>
    obtain ⟨hfirst, hrepresents, hsound⟩ := step_agree hash h hm config i
    obtain ⟨hrest, hrepresents', hsound'⟩ := ih hrepresents hsound
    refine ⟨?_, hrepresents', hsound'⟩
    simp only [List.map_cons, State.run, Machine.run, hfirst, hrest]

end Agreement

/-! ### What a request does to the machine -/

variable [Mul T] [DecidableEq T] (hash : Bytes → Digest)

/-- Whether a plan only asks. -/
def IsQuestion : Plan → Prop
  | .answer _ | .withKey _ => True
  | .setup _ | .reset => False

/-- Requests on other routes than those for a new key and for none only ask. -/
theorem yields_isQuestion {limit : ℤ} {route : Route} (r : Request) (hsetup : route ≠ .setup)
    (hreset : route ≠ .reset) : Yields IsQuestion (Plan.ofRequest E hash limit route r) := by
  cases route with
  | setup => exact absurd rfl hsetup
  | reset => exact absurd rfl hreset
  | key => exact .ok trivial
  | commit => exact .bind fun _ => .bind fun _ => .ok trivial
  | evaluate =>
    exact .bind fun _ => .bind fun _ => .bind fun _ => .bind fun _ => .bind fun _ => .ok trivial
  | challenge =>
    refine .bind fun _ => .bind fun v => ?_
    split
    · exact .bind fun _ => .bind fun _ => .bind fun _ => .ok trivial
    · exact .error
  | witness => exact .bind fun _ => .bind fun _ => .bind fun _ => .bind fun _ => .ok trivial
  | verify =>
    exact .bind fun _ => .bind fun _ => .bind fun _ => .bind fun _ => .bind fun _ => .ok trivial

/-- A request for a new key becomes a plan unless it names an integer above the limit. -/
theorem ofRequest_setup (limit : ℤ) (r : Request) :
    (∃ v, Plan.ofRequest E hash limit .setup r = .ok (.setup v) ∧ v.integer? = r.bound? ∧
      ∀ t, r.bound? = some t → t ≤ limit) ∨
    (∃ f, Plan.ofRequest E hash limit .setup r = .error f) ∧
      ∀ t, r.bound? = some t → limit < t := by
  rw [Plan.ofRequest]
  obtain ⟨fields, hfields, hbound⟩ | ⟨⟨f, hfields⟩, hbound⟩ := r.fields_cases
  · rw [hfields, hbound, ok_bind, Plan.forSetup, Request.require]
    cases Value.lookup (Text.ofString "t") fields with
    | none => exact .inr ⟨⟨_, rfl⟩, nofun⟩
    | some v =>
      rw [ok_bind, Option.bind_some]
      by_cases hlimit : Plan.exceeds limit v = true
      · refine .inr ⟨⟨_, if_pos hlimit⟩, fun t ht => ?_⟩
        cases v <;> cases ht
        exact of_decide_eq_true hlimit
      · refine .inl ⟨v, if_neg hlimit, rfl, fun t ht => ?_⟩
        cases v <;> cases ht
        exact Int.not_lt.mp fun h => hlimit (decide_eq_true h)
  · rw [hfields, hbound]
    exact .inr ⟨⟨f, rfl⟩, nofun⟩

/-- A request for a new key is accepted exactly for an integer between one and the limit; then the
next secrets make the key, and otherwise nothing changes. -/
theorem handle_setup [E.g₁.Lawful] [E.g₂.Lawful] (limit : ℤ) (m : Machine) (r : Request) :
    (∃ t key, r.bound? = some t ∧ 1 ≤ t ∧ t ≤ limit ∧
      Key.ofSecrets E (Secrets.draw m.draws).1 t.toNat = .ok key ∧
      m.handle E hash limit .setup r =
        (.ok (keyAnswer key), ⟨some key, (Secrets.draw m.draws).2⟩)) ∨
    (¬∃ t, r.bound? = some t ∧ 1 ≤ t ∧ t ≤ limit) ∧
      ∃ f, m.handle E hash limit .setup r = (.error (.failure f), m) := by
  rw [Machine.handle]
  obtain ⟨v, hplan, hv, hlimit⟩ | ⟨⟨f, hplan⟩, hlimit⟩ :=
    ofRequest_setup (E := E) hash limit r
  · rw [hplan, ← hv]
    rw [← hv] at hlimit
    by_cases hpositive : ∃ t, v.integer? = some t ∧ 1 ≤ t
    · obtain ⟨t, ht, hone⟩ := hpositive
      obtain ⟨key, hkey, hgenerate, -⟩ :=
        Key.exists_generate (E := E) (Key.bound_of_integer? ht hone) m.draws
      exact .inl ⟨t, key, ht, hone, hlimit t ht, hkey, by simp only [Machine.perform, hgenerate]⟩
    · obtain ⟨f, hf⟩ := Key.exists_bound_error fun t ht =>
        Int.not_le.mp fun hone => hpositive ⟨t, ht, hone⟩
      exact .inr ⟨fun ⟨t, ht, hone, _⟩ => hpositive ⟨t, ht, hone⟩, f,
        by simp only [Machine.perform, Key.generate_of_bound_error hf]⟩
  · rw [hplan]
    exact .inr ⟨fun ⟨t, ht, _, h⟩ => absurd (hlimit t ht) (Int.not_lt.mpr h), f, rfl⟩

/-- Other requests leave the machine as it is, and their results depend on its key alone. -/
theorem handle_question {limit : ℤ} {route : Route} (m : Machine) (r : Request)
    (hsetup : route ≠ .setup) (hreset : route ≠ .reset) (draws : Draws) :
    (m.handle E hash limit route r).2 = m ∧
      (Machine.handle E hash limit ⟨m.key, draws⟩ route r).1 =
        (m.handle E hash limit route r).1 := by
  rw [Machine.handle, Machine.handle]
  cases hplan : Plan.ofRequest E hash limit route r with
  | error f => exact ⟨rfl, rfl⟩
  | ok plan =>
    have h := yields_isQuestion hash r hsetup hreset plan hplan
    cases plan with
    | answer v => exact ⟨rfl, rfl⟩
    | withKey use => exact ⟨rfl, rfl⟩
    | setup bound => exact h.elim
    | reset => exact h.elim

/-- What a request does to the machine, and what the response to it depends on. -/
structure Transition (E : PairingSystem T) (hash : Bytes → Digest) (limit : ℤ) (m : Machine)
    (r : Request) : Prop where
  /-- A request for a new key has status 200 exactly for an integer between one and the limit. -/
  accepts : r.destination = .operation .setup →
    ((m.request E hash limit r).1.status = 200 ↔ ∃ t, r.bound? = some t ∧ 1 ≤ t ∧ t ≤ limit)
  /-- Then the next three numbers make the key. -/
  setup : r.destination = .operation .setup → (m.request E hash limit r).1.status = 200 →
    ∃ t key, r.bound? = some t ∧ 1 ≤ t ∧ t ≤ limit ∧
      Key.ofSecrets E (Secrets.draw m.draws).1 t.toNat = .ok key ∧
      (m.request E hash limit r).2 = ⟨some key, (Secrets.draw m.draws).2⟩
  /-- A reset forgets the key. -/
  reset : r.destination = .operation .reset → (m.request E hash limit r).2 = ⟨none, m.draws⟩
  /-- Nothing else changes the machine. -/
  other : (r.destination = .operation .setup → (m.request E hash limit r).1.status ≠ 200) →
    r.destination ≠ .operation .reset → (m.request E hash limit r).2 = m
  /-- The response to a request for a new key does not depend on the old one. -/
  key_irrelevant : r.destination = .operation .setup → ∀ key,
    (Machine.request E hash limit ⟨key, m.draws⟩ r).1 = (m.request E hash limit r).1
  /-- The other responses do not depend on the random numbers. -/
  draws_irrelevant : r.destination ≠ .operation .setup → ∀ draws,
    (Machine.request E hash limit ⟨m.key, draws⟩ r).1 = (m.request E hash limit r).1

/-- A request for an operation leaves the machine as handling it does. -/
theorem request_state {limit : ℤ} {route : Route} {r : Request} (m : Machine)
    (h : r.destination = .operation route) :
    (m.request E hash limit r).2 = (m.handle E hash limit route r).2 := by
  rw [Machine.request, h]

/-- The response to a request is made of the result alone. -/
theorem request_response {limit : ℤ} {route : Route} {r : Request} {m m' : Machine}
    (h : r.destination = .operation route)
    (hresult : (m'.handle E hash limit route r).1 = (m.handle E hash limit route r).1) :
    (m'.request E hash limit r).1 = (m.request E hash limit r).1 := by
  simp only [Machine.request, h, hresult]

/-- A request for an operation has the status of its result. -/
theorem request_status {limit : ℤ} {route : Route} {r : Request} (m : Machine)
    (h : r.destination = .operation route) :
    (m.request E hash limit r).1.status = (respond (m.handle E hash limit route r).1).status := by
  simp only [Machine.request, h]
  split <;> rfl

/-- A failure never has status 200. -/
theorem status_failure (f : Failure) : (respond (.error (.failure f))).status ≠ 200 := by
  cases f with
  | refused r => exact (by decide : 400 ≠ 200)
  | fault f => exact (by decide : 500 ≠ 200)

/-- Only a result has status 200. -/
theorem exists_result_of_status {result : Except Trouble Value}
    (h : (respond result).status = 200) : ∃ v, result = .ok v := by
  cases result with
  | ok v => exact ⟨v, rfl⟩
  | error t =>
    cases t with
    | missingKey => exact absurd h (by decide)
    | failure f => exact absurd h (status_failure f)

/-- The result of a request for a new key does not depend on the old one. -/
theorem handle_setup_result (limit : ℤ) (m : Machine) (r : Request) (key : Option Key) :
    (Machine.handle E hash limit ⟨key, m.draws⟩ .setup r).1 =
      (m.handle E hash limit .setup r).1 := by
  rw [Machine.handle, Machine.handle]
  obtain ⟨v, hplan, -⟩ | ⟨⟨f, hplan⟩, -⟩ := ofRequest_setup (E := E) hash limit r
  · rw [hplan]
    simp only [Machine.perform]
    split <;> rfl
  · rw [hplan]

/-- Every request moves the machine as described. -/
theorem transition [E.g₁.Lawful] [E.g₂.Lawful] (limit : ℤ) (m : Machine) (r : Request) :
    Transition E hash limit m r where
  accepts h := by
    rw [request_status hash m h]
    obtain ⟨t, key, ht, hone, hlimit, -, hhandle⟩ | ⟨hnone, f, hhandle⟩ :=
      handle_setup (E := E) hash limit m r
    · rw [hhandle]
      exact iff_of_true rfl ⟨t, ht, hone, hlimit⟩
    · rw [hhandle]
      exact iff_of_false (status_failure f) hnone
  setup h hstatus := by
    rw [request_status hash m h] at hstatus
    rw [request_state hash m h]
    obtain ⟨t, key, ht, hone, hlimit, hkey, hhandle⟩ | ⟨-, f, hhandle⟩ :=
      handle_setup (E := E) hash limit m r
    · exact ⟨t, key, ht, hone, hlimit, hkey, by rw [hhandle]⟩
    · rw [hhandle] at hstatus
      exact absurd hstatus (status_failure f)
  reset h := by
    rw [request_state hash m h]
    rfl
  other hstatus hreset := by
    cases hdestination : r.destination with
    | status code => rw [Machine.request, hdestination]
    | operation route =>
      rw [request_state hash m hdestination]
      by_cases hsetup : route = .setup
      · subst hsetup
        have hstatus := hstatus hdestination
        rw [request_status hash m hdestination] at hstatus
        obtain ⟨t, key, -, -, -, -, hhandle⟩ | ⟨-, f, hhandle⟩ :=
          handle_setup (E := E) hash limit m r
        · rw [hhandle] at hstatus
          exact absurd rfl hstatus
        · rw [hhandle]
      · exact (handle_question hash m r hsetup (fun h => hreset (h ▸ hdestination)) m.draws).1
  key_irrelevant h key := request_response hash h (handle_setup_result hash limit m r key)
  draws_irrelevant h draws := by
    cases hdestination : r.destination with
    | status code => simp only [Machine.request, hdestination]
    | operation route =>
      have hsetup : route ≠ .setup := fun hroute => h (hroute ▸ hdestination)
      refine request_response hash hdestination ?_
      by_cases hreset : route = .reset
      · subst hreset
        rfl
      · exact (handle_question hash m r hsetup hreset draws).2

/-! ### Sessions -/

end Service

end PolyCommit
