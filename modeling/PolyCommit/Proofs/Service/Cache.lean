import PolyCommit.Proofs.Service.Machine
import Mathlib.GroupTheory.OrderOfElement

/-!
# Only members reach the cache

Anything can be written to the record past the service, so the record says nothing about the cache.
The cache is filled in two ways, with a key that was just made and with a key that was just read
from the record, and both give keys whose points are members of their groups. Everything else leaves
the cache as it is or empties it, so that this holds throughout every session.
-/

namespace PolyCommit

namespace Service

variable {T : Type} (E : PairingSystem T)

/-- The key that a record spells. A record of null is none. -/
def keyOfRecord : Option Value → Except Trouble Key
  | none | some .null => .error .missingKey
  | some v => lift (Key.ofValue E v)

/-- The key that a request uses: the cached one if there is one, and otherwise the one that the
record spells. -/
def State.current (s : State) : Except Trouble Key := s.cache.elim (keyOfRecord E s.record) .ok

/-- The response to the result of a request. -/
def reply (r : Request) (result : Except Trouble Value) : Response :=
  if r.method = Text.ofString "HEAD" then Response.head (respond result) else respond result

/-- Whether the requests on a route use the current key. -/
def usesKey : Route → Bool
  | .key | .commit | .witness | .verify => true
  | .setup | .evaluate | .challenge | .reset => false

variable {E} {s : State}

/-- Loading gives the current key and caches it, or fails and changes nothing. -/
theorem State.load_eq_current (s : State) : s.load E =
    match s.current E with
    | .ok key => (.ok key, { s with cache := some key })
    | .error t => (.error t, s) := by
  obtain ⟨record, _ | key, draws⟩ := s
  · rcases record with _ | v
    · rfl
    · cases v
      case null => rfl
      all_goals
        simp only [State.load, State.current, keyOfRecord, Option.elim_none]
        split <;> next h => simp only [h, lift]
  · rfl

/-- What is loaded is the current key. -/
theorem State.load_fst (s : State) : (s.load E).1 = s.current E := by
  rw [State.load_eq_current]
  cases s.current E <;> rfl

/-- Without a current key the cache is empty. -/
theorem State.cache_of_current_error {t : Trouble} (h : s.current E = .error t) :
    s.cache = none := by
  rw [State.current] at h
  cases hcache : s.cache with
  | none => rfl
  | some key => rw [hcache] at h; cases h

/-- A question is put to the current key, which is then in the cache. -/
theorem State.perform_withKey_ok {key : Key} (h : s.current E = .ok key)
    (use : Key → Except Failure Value) :
    s.perform E (.withKey use) = (lift (use key), { s with cache := some key }) := by
  rw [State.perform, State.load_eq_current, h]

/-- Without a current key a question changes nothing. -/
theorem State.perform_withKey_error {t : Trouble} (h : s.current E = .error t)
    (use : Key → Except Failure Value) : s.perform E (.withKey use) = (.error t, s) := by
  rw [State.perform, State.load_eq_current, h]

/-- A question that has an answer has it from the current key. -/
theorem State.exists_current_of_perform {use : Key → Except Failure Value} {v : Value}
    (h : (s.perform E (.withKey use)).1 = .ok v) :
    ∃ key, s.current E = .ok key ∧ use key = .ok v := by
  cases hcurrent : s.current E with
  | error t =>
    rw [State.perform_withKey_error hcurrent] at h
    cases h
  | ok key =>
    rw [State.perform_withKey_ok hcurrent] at h
    cases huse : use key with
    | error f =>
      rw [huse] at h
      cases h
    | ok v' =>
      rw [huse] at h
      exact ⟨key, rfl, by rw [huse, Except.ok.inj h]⟩

/-! ### The cache -/

/-- Whether the cache is empty or holds a key of members. -/
def State.IsClean (E : PairingSystem T) (s : State) : Prop :=
  ∀ key, s.cache = some key → key.IsContained E

/-- An empty cache is clean. -/
theorem isClean_of_cache_eq_none (h : s.cache = none) : s.IsClean E := fun key hkey => by
  rw [h] at hkey
  cases hkey

/-- A cache with a key of members is clean. -/
theorem isClean_of_cache_eq_some {key : Key} (h : s.cache = some key) (hkey : key.IsContained E) :
    s.IsClean E := fun key' hkey' => by
  rw [h] at hkey'
  exact Option.some.inj hkey' ▸ hkey

section Clean

variable [E.g₁.Lawful] [E.g₂.Lawful]

/-- The current key consists of members, whatever the record is. -/
theorem State.IsClean.current (hs : s.IsClean E) {key : Key} (h : s.current E = .ok key) :
    key.IsContained E := by
  rw [State.current] at h
  cases hcache : s.cache with
  | some cached =>
    rw [hcache] at h
    exact Except.ok.inj h ▸ hs cached hcache
  | none =>
    rw [hcache, Option.elim_none] at h
    unfold keyOfRecord at h
    split at h
    · cases h
    · cases h
    · next v _ _ =>
      cases hv : Key.ofValue E v with
      | ok read =>
        rw [hv] at h
        exact Except.ok.inj h ▸ Key.isContained_of_ofValue hv
      | error f =>
        rw [hv] at h
        cases h

/-- A bound either has a new key of members, which is kept, or is refused, and then nothing
changes. -/
theorem State.perform_setup (s : State) (bound : Value) :
    (∃ key draws, key.IsContained E ∧ s.perform E (.setup bound) =
      (.ok (keyAnswer key), ⟨some key.toValue, some key, draws⟩)) ∨
    ∃ f, s.perform E (.setup bound) = (.error (.failure f), s) := by
  rw [State.perform]
  cases hbound : Key.bound bound with
  | error f =>
    rw [Key.generate_of_bound_error hbound]
    exact .inr ⟨f, rfl⟩
  | ok t =>
    obtain ⟨key, -, hgenerate, hcontained⟩ := Key.exists_generate (E := E) hbound s.draws
    rw [hgenerate]
    exact .inl ⟨key, _, hcontained, rfl⟩

/-- Carrying out a plan keeps the cache clean. -/
theorem State.IsClean.perform (hs : s.IsClean E) (plan : Plan) :
    (s.perform E plan).2.IsClean E := by
  cases plan with
  | answer v => exact hs
  | withKey use =>
    cases hcurrent : s.current E with
    | ok key =>
      rw [State.perform_withKey_ok hcurrent]
      exact isClean_of_cache_eq_some rfl (hs.current hcurrent)
    | error t =>
      rw [State.perform_withKey_error hcurrent]
      exact hs
  | setup bound =>
    obtain ⟨key, draws, hkey, h⟩ | ⟨f, h⟩ := State.perform_setup (E := E) s bound
    · rw [h]
      exact isClean_of_cache_eq_some rfl hkey
    · rw [h]
      exact hs
  | reset => exact isClean_of_cache_eq_none rfl

variable [Mul T] [DecidableEq T] (hash : Bytes → Digest) (config : Config)

/-- What can happen in a session keeps the cache clean. -/
theorem State.IsClean.step (hs : s.IsClean E) (e : Event) :
    (s.step E hash config e).2.IsClean E := by
  cases e with
  | restart => exact isClean_of_cache_eq_none rfl
  | write v => exact hs
  | request r =>
    rw [State.step, State.request]
    cases r.destination with
    | status code => exact hs
    | operation route =>
      change (s.handle E hash config route r).2.IsClean E
      rw [State.handle]
      cases Plan.ofRequest E hash config.limit route r with
      | ok plan => exact hs.perform plan
      | error f => exact hs

/-- The cache is clean throughout a session. -/
theorem State.IsClean.run (hs : s.IsClean E) (events : List Event) :
    (s.run E hash config events).2.IsClean E := by
  induction events generalizing s with
  | nil => exact hs
  | cons e rest ih => exact ih (hs.step hash config e)

end Clean

/-! ### One request -/

section Handling

variable [Mul T] [DecidableEq T] (hash : Bytes → Digest) (config : Config)

/-- What a request does to the record and the cache. -/
structure Handling (E : PairingSystem T) (hash : Bytes → Digest) (config : Config) (s : State)
    (r : Request) : Prop where
  /-- On a route that uses the key, a request asks the key unless it is refused by itself. -/
  asks : ∀ route, r.destination = .operation route → usesKey route = true →
    (∃ use, Plan.ofRequest E hash config.limit route r = .ok (.withKey use)) ∨
      ∃ f, Plan.ofRequest E hash config.limit route r = .error f
  /-- A request that asks the key is answered with the current one, which is then cached. -/
  loaded : ∀ route use key, r.destination = .operation route →
    Plan.ofRequest E hash config.limit route r = .ok (.withKey use) → s.current E = .ok key →
    s.request E hash config r = (reply r (lift (use key)), { s with cache := some key })
  /-- If the key cannot be loaded, the cache is empty, and nothing changes. -/
  notLoaded : ∀ route use t, r.destination = .operation route →
    Plan.ofRequest E hash config.limit route r = .ok (.withKey use) → s.current E = .error t →
    s.cache = none ∧ s.request E hash config r = (reply r (.error t), s)
  /-- After a new key is accepted, it is cached, and the record is its own. -/
  setup : r.destination = .operation .setup → (s.request E hash config r).1.status = 200 →
    ∃ key, (s.request E hash config r).2.cache = some key ∧
      (s.request E hash config r).2.record = some key.toValue
  /-- A reset succeeds, and empties both. -/
  reset : r.destination = .operation .reset → (s.request E hash config r).1.status = 200 ∧
    (s.request E hash config r).2.cache = none ∧ (s.request E hash config r).2.record = none
  /-- Other requests change nothing. -/
  other : (∀ route use, r.destination = .operation route →
      Plan.ofRequest E hash config.limit route r ≠ .ok (.withKey use)) →
    (r.destination = .operation .setup → (s.request E hash config r).1.status ≠ 200) →
    r.destination ≠ .operation .reset → (s.request E hash config r).2 = s

variable {hash config} {route : Route} {r : Request}

/-- A request for an operation is handled and replied to. -/
theorem request_eq (s : State) (h : r.destination = .operation route) :
    s.request E hash config r =
      (reply r (s.handle E hash config route r).1, (s.handle E hash config route r).2) := by
  rw [State.request, h]
  rfl

/-- A request with a plan has it carried out and replied to. -/
theorem request_of_plan (s : State) (h : r.destination = .operation route) {plan : Plan}
    (hplan : Plan.ofRequest E hash config.limit route r = .ok plan) :
    s.request E hash config r = (reply r (s.perform E plan).1, (s.perform E plan).2) := by
  rw [request_eq s h, State.handle, hplan]

/-- The status does not depend on whether the head alone is asked for. -/
theorem status_reply (r : Request) (result : Except Trouble Value) :
    (reply r result).status = (respond result).status := by
  unfold reply
  split <;> rfl

/-- On a route that uses the key, a request becomes a question to it, if anything. -/
theorem yields_withKey (hash : Bytes → Digest) {limit : ℤ} (r : Request)
    (h : usesKey route = true) :
    Yields (fun plan => ∃ use, plan = .withKey use) (Plan.ofRequest E hash limit route r) := by
  cases route with
  | setup | evaluate | challenge | reset => cases h
  | key => exact .ok ⟨_, rfl⟩
  | commit => exact .bind fun _ => .bind fun _ => .ok ⟨_, rfl⟩
  | witness => exact .bind fun _ => .bind fun _ => .bind fun _ => .bind fun _ => .ok ⟨_, rfl⟩
  | verify =>
    exact .bind fun _ => .bind fun _ => .bind fun _ => .bind fun _ => .bind fun _ => .ok ⟨_, rfl⟩

/-- A request for a new key is accepted, and the key kept, or it fails and changes nothing. -/
theorem State.handle_setup [E.g₁.Lawful] [E.g₂.Lawful] (hash : Bytes → Digest) (config : Config)
    (s : State) (r : Request) :
    (∃ key draws, s.handle E hash config .setup r =
      (.ok (keyAnswer key), ⟨some key.toValue, some key, draws⟩)) ∨
    ∃ f, s.handle E hash config .setup r = (.error (.failure f), s) := by
  rw [State.handle]
  obtain ⟨v, hplan, -⟩ | ⟨⟨f, hplan⟩, -⟩ := ofRequest_setup (E := E) hash config.limit r
  · rw [hplan]
    obtain ⟨key, draws, -, h⟩ | h := State.perform_setup (E := E) s v
    · exact .inl ⟨key, draws, h⟩
    · exact .inr h
  · rw [hplan]
    exact .inr ⟨f, rfl⟩

/-- Every request is handled as described, whatever the record is. -/
theorem handling [E.g₁.Lawful] [E.g₂.Lawful] (s : State) (r : Request) :
    Handling E hash config s r where
  asks route _ huses := by
    cases hplan : Plan.ofRequest E hash config.limit route r with
    | ok plan =>
      obtain ⟨use, rfl⟩ := yields_withKey hash r huses plan hplan
      exact .inl ⟨use, rfl⟩
    | error f => exact .inr ⟨f, rfl⟩
  loaded route use key h hplan hcurrent := by
    rw [request_of_plan s h hplan, State.perform_withKey_ok hcurrent]
  notLoaded route use t h hplan hcurrent := by
    rw [request_of_plan s h hplan, State.perform_withKey_error hcurrent]
    exact ⟨State.cache_of_current_error hcurrent, rfl⟩
  setup h hstatus := by
    rw [request_eq s h] at hstatus ⊢
    obtain ⟨key, draws, hhandle⟩ | ⟨f, hhandle⟩ :=
      State.handle_setup (E := E) hash config s r
    · rw [hhandle]
      exact ⟨key, rfl, rfl⟩
    · rw [hhandle, status_reply] at hstatus
      exact absurd hstatus (status_failure f)
  reset h := by
    have hplan : Plan.ofRequest E hash config.limit .reset r = .ok .reset := rfl
    rw [request_of_plan s h hplan]
    exact ⟨status_reply r _, rfl, rfl⟩
  other hkey hsetup hreset := by
    cases h : r.destination with
    | status code => rw [State.request, h]
    | operation route =>
      by_cases hroute : route = .setup
      · subst hroute
        have hstatus := hsetup h
        rw [request_eq s h] at hstatus ⊢
        obtain ⟨key, draws, hhandle⟩ | ⟨f, hhandle⟩ :=
          State.handle_setup (E := E) hash config s r
        · rw [hhandle, status_reply] at hstatus
          exact absurd rfl hstatus
        · rw [hhandle]
      · rw [request_eq s h, State.handle]
        cases hplan : Plan.ofRequest E hash config.limit route r with
        | error f => rfl
        | ok plan =>
          have hquestion := yields_isQuestion hash r hroute (fun hr => hreset (hr ▸ h)) plan hplan
          cases plan with
          | answer v => rfl
          | withKey use => exact absurd hplan (hkey route use h)
          | setup bound => exact hquestion.elim
          | reset => exact hquestion.elim

end Handling

/-! ### Sessions -/

/-- Whether a key has points of both groups, none of them the identity, those of the first on the
curve and those of the second on the twist and of order `groupOrder`. -/
structure IsGenuine (key : Key) : Prop where
  powers₁ : key.powers₁ ≠ []
  powers₂ : key.powers₂ ≠ []
  points₁ : ∀ P ∈ key.points₁, P ≠ none ∧ Bn254.onCurve₁ P = true
  points₂ : ∀ Q ∈ key.points₂, Q ≠ none ∧ Bn254.onTwist Q = true ∧
    ∀ k, Bn254.group₂.multiple k Q = none ↔ groupOrder ∣ k

/-- Every member other than the identity has order `groupOrder`. -/
theorem multiple_eq_none_iff {F : Type} {G : PointGroup F} [G.Lawful] {P : Point F}
    (hP : G.contains P = true) (hne : P ≠ none) (k : ℕ) :
    G.multiple k P = none ↔ groupOrder ∣ k := by
  let Q : G.Member := ⟨P, hP⟩
  have hQ : Q ≠ 0 := fun h => hne (PointGroup.Member.point_eq_none_iff.mpr h)
  have horder : addOrderOf Q = groupOrder := addOrderOf_eq_prime Q.groupOrder_nsmul hQ
  rw [← horder, addOrderOf_dvd_iff_nsmul_eq_zero, ← PointGroup.Member.point_eq_none_iff,
    PointGroup.Member.point_nsmul]
  rfl

/-- A key of members is genuine. -/
theorem isGenuine_of_isContained {key : Key} (h : key.IsContained bn254) : IsGenuine key where
  powers₁ := key.powers₁_ne_nil
  powers₂ := key.powers₂_ne_nil
  points₁ P hP := by
    obtain ⟨A, -, rfl⟩ := List.mem_map.mp hP
    exact ⟨Option.some_ne_none A, h.1 _ hP⟩
  points₂ Q hQ := by
    obtain ⟨A, -, rfl⟩ := List.mem_map.mp hQ
    exact ⟨Option.some_ne_none A, Bn254.onTwist_of_inSubgroup₂ (h.2 _ hQ),
      multiple_eq_none_iff (h.2 _ hQ) (Option.some_ne_none A)⟩

/-- In every session, whatever is written to the record, only genuine keys are ever cached. Every
request is handled as described, in every state. -/
theorem cache_spec (hash : Bytes → Digest) (config : Config) (draws : Draws) :
    (∀ events key, ((State.initial draws).run bn254 hash config events).2.cache = some key →
      IsGenuine key) ∧
    ∀ s r, Handling bn254 hash config s r :=
  ⟨fun events key hkey => isGenuine_of_isContained
    ((isClean_of_cache_eq_none rfl : (State.initial draws).IsClean bn254).run hash config events
      key hkey),
    handling⟩

/-- A request with a JSON body. -/
def send (method path body : String) : Request where
  method := Text.ofString method
  target := ⟨Text.ofString "http", ⟨none, Text.ofString "localhost", none⟩, Text.ofString path, []⟩
  contentType := some (Text.ofString "application/json")
  body := body.toUTF8.data.toList

/-- After a record is written that spells no key, the key is refused and nothing changes, and a
request for a new key still fills the cache. -/
theorem cache_spec_written :
    (((State.initial []).write (.int 0)).request bn254 Sha256.hash ⟨16, false⟩
      (send "GET" "/kzg/key" "")).2 = (State.initial []).write (.int 0) ∧
    ∃ key, ((State.initial []).run bn254 Sha256.hash ⟨16, false⟩
      [.write (.int 0), .request (send "POST" "/kzg/setup" "\x7b\"t\": 2\x7d")]).2.cache =
        some key ∧ IsGenuine key := by
  obtain ⟨hgenuine, hhandling⟩ := cache_spec Sha256.hash ⟨16, false⟩ []
  have hkey : (send "GET" "/kzg/key" "").destination = .operation .key := by decide +kernel
  obtain ⟨-, hrefused⟩ := (hhandling ((State.initial []).write (.int 0))
    (send "GET" "/kzg/key" "")).notLoaded .key _ _ hkey rfl rfl
  have hcached : ((State.initial []).run bn254 Sha256.hash ⟨16, false⟩
      [.write (.int 0), .request (send "POST" "/kzg/setup" "\x7b\"t\": 2\x7d")]).2.cache.isSome =
        true := by decide +kernel
  obtain ⟨key, h⟩ := Option.isSome_iff_exists.mp hcached
  exact ⟨congrArg Prod.snd hrefused, key, h, hgenuine _ key h⟩

end Service

end PolyCommit
