import PolyCommit.Key.Setup
import PolyCommit.Service.Plan

/-!
# Sessions

The service keeps one record, the key as a JSON value, and beside it a cache of the key that was
last decoded or made. A request that needs the key takes it from the cache, or else decodes the
record; a new key is written to both, and a reset empties both. A restart empties the cache, and a
store in memory with it. Records can also be written directly, past the cache.
-/

namespace PolyCommit

namespace Service

/-- What stays the same during a session: the limit on new keys, and whether the record outlives a
restart. -/
structure Config where
  limit : Int
  durable : Bool

/-- What changes during a session: the record, the cache, and the random numbers still to come. -/
structure State where
  record : Option Value
  cache : Option Key
  draws : Draws

/-- The state before the first request. -/
def State.initial (draws : Draws) : State := ⟨none, none, draws⟩

/-- Why a request is not answered. -/
inductive Trouble
  | missingKey
  | failure (f : Failure)

/-- The sentence that says that there is no key. -/
def missingKeyMessage : Text :=
  Text.ofString "커밋먼트 키가 없습니다. 먼저 /kzg/setup을 호출하세요"

variable {T : Type} (E : PairingSystem T)

/-- The current key. A record of null is none. -/
def State.load (s : State) : Except Trouble Key × State :=
  match s.cache, s.record with
  | some key, _ => (.ok key, s)
  | none, none | none, some .null => (.error .missingKey, s)
  | none, some v =>
    match Key.ofValue E v with
    | .ok key => (.ok key, { s with cache := some key })
    | .error f => (.error (.failure f), s)

/-- Keep a new key. -/
def State.keep (s : State) (key : Key) : State :=
  { s with record := some key.toValue, cache := some key }

/-- Forget the key. -/
def State.clear (s : State) : State := { s with record := none, cache := none }

/-- A result of the library as the result of a request. -/
def lift {α : Type} : Except Failure α → Except Trouble α
  | .ok a => .ok a
  | .error f => .error (.failure f)

/-- The answer to a new key. -/
def keyAnswer (key : Key) : Value :=
  Plan.answerFields [("g1_size", .int key.size₁), ("g2_size", .int key.size₂),
    ("size_in_bits", .int key.bits)]

/-- Carry out a plan. -/
def State.perform (s : State) : Plan → Except Trouble Value × State
  | .answer v => (.ok v, s)
  | .withKey use =>
    match s.load E with
    | (.ok key, s) => (lift (use key), s)
    | (.error t, s) => (.error t, s)
  | .setup bound =>
    match Key.generate E bound s.draws with
    | (.ok key, draws) => (.ok (keyAnswer key), { s with draws := draws }.keep key)
    | (.error f, draws) => (.error (.failure f), { s with draws := draws })
  | .reset => (.ok (Plan.answerFields [("result", .bool true)]), s.clear)

/-- The response to the result of a request. -/
def respond : Except Trouble Value → Response
  | .ok v => ⟨200, some v⟩
  | .error .missingKey =>
    ⟨409, some (Plan.answerFields [("error", .ofString "MissingKey"),
      ("message", .str missingKeyMessage)])⟩
  | .error (.failure (.refused r)) =>
    ⟨400, some (Plan.answerFields [("error", .ofString r.kind), ("message", .str r.message)])⟩
  | .error (.failure (.fault _)) => ⟨500, none⟩

/-- The response to a request for the head alone. -/
def Response.head (r : Response) : Response := { r with body := none }

variable [Mul T] [DecidableEq T]

/-- Carry out the plan of a request, or say what is wrong with the request. -/
def State.handle (hash : Bytes → Digest) (config : Config) (s : State) (route : Route)
    (r : Request) : Except Trouble Value × State :=
  match Plan.ofRequest E hash config.limit route r with
  | .ok plan => s.perform E plan
  | .error f => (.error (.failure f), s)

/-- The response to a request, and the state after it. Only a method that is `HEAD` as it is written
asks for the head alone. -/
def State.request (hash : Bytes → Digest) (config : Config) (s : State) (r : Request) :
    Response × State :=
  match r.destination with
  | .status code => (⟨code, none⟩, s)
  | .operation route =>
    let (result, s) := s.handle E hash config route r
    let response := respond result
    (if r.method = Text.ofString "HEAD" then Response.head response else response, s)

/-- The state after a restart. -/
def State.restart (config : Config) (s : State) : State :=
  { s with cache := none, record := if config.durable then s.record else none }

/-- The state after a record is written directly. -/
def State.write (s : State) (v : Value) : State := { s with record := some v }

/-- What can happen in a session. -/
inductive Event
  | request (r : Request)
  | restart
  | write (v : Value)

/-- The response to an event, if it is a request, and the state after it. -/
def State.step (hash : Bytes → Digest) (config : Config) (s : State) :
    Event → Option Response × State
  | .request r => let (response, s) := s.request E hash config r; (some response, s)
  | .restart => (none, s.restart config)
  | .write v => (none, s.write v)

/-- The responses to a list of events and the state after them. -/
def State.run (hash : Bytes → Digest) (config : Config) (s : State) :
    List Event → List (Option Response) × State
  | [] => ([], s)
  | e :: rest =>
    let (response, s) := s.step E hash config e
    let (responses, s) := s.run hash config rest
    (response :: responses, s)

end Service

end PolyCommit
