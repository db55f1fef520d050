import PolyCommit.Service.Route
import PolyCommit.Commitment
import PolyCommit.Key.Bytes
import PolyCommit.Key.Fields
import PolyCommit.Transcript
import PolyCommit.Witness.Fields

/-!
# Plans

What a request means, read off the request alone: an answer, a question to the current key, a new
key, or none. Everything that can be wrong with a request by itself is found here; the state of the
service is not looked at.
-/

namespace PolyCommit

/-- What a request asks the service to do. -/
inductive Plan
  /-- Answer with a value. -/
  | answer (v : Value)
  /-- Answer with something that depends on the current key. -/
  | withKey (use : Key → Except Failure Value)
  /-- Make a key with powers up to a bound, and keep it. -/
  | setup (bound : Value)
  /-- Forget the key. -/
  | reset

namespace Plan

/-- A JSON object with named fields. -/
def answerFields (fields : List (String × Value)) : Value :=
  .object (fields.map fun field => (Text.ofString field.1, field.2))

/-- Whether a value is an integer, or a truth value as one, above a limit. -/
def exceeds (limit : Int) : Value → Bool
  | .int k => limit < k
  | .bool b => limit < (if b then 1 else 0)
  | _ => false

/-- The polynomial of a body, and the degree: all coefficients unless the body says otherwise. -/
def polyAndDegree (fields : List (Text × Value)) : Except Failure (Poly × Value) := do
  let p ← (← Request.require "poly" fields).toPoly
  return (p, (Value.lookup (Text.ofString "degree") fields).getD (.int p.length))

/-- The coefficients of a polynomial as operands. -/
def operand (p : Poly) : Value := .list (p.map .scalar)

variable {T : Type} (E : PairingSystem T)

/-- A new key, within the limit of the service. -/
def forSetup (limit : Int) (fields : List (Text × Value)) : Except Failure Plan := do
  let bound ← Request.require "t" fields
  if exceeds limit bound then .error (.quoting (.malformed (.boundAboveLimit limit bound)))
  return setup bound

/-- The current key, in hex if the query asks for it. -/
def forKey (r : Request) : Plan :=
  withKey fun key => do
    if r.target.argument? "format" = some (Text.ofString "hex") then
      return answerFields [("key", .str (← key.encodeHex))]
    else
      return answerFields [("key", key.toValue)]

/-- The commitment to a polynomial. -/
def forCommit (fields : List (Text × Value)) : Except Failure Plan := do
  let (p, degree) ← polyAndDegree fields
  return withKey fun key => do
    return answerFields [("commitment", .ofPoint₁ (← E.commit key (operand p) degree))]

/-- The value of a polynomial at a point. -/
def forEvaluate (fields : List (Text × Value)) : Except Failure Plan := do
  let (p, degree) ← polyAndDegree fields
  let z ← (← Request.require "point" fields).toScalar
  return answer (answerFields
    [("evaluation", .ofFr (← Poly.evaluate (operand p) (.scalar z) degree))])

/-- The point at which three commitments are to be opened. -/
def forChallenge (hash : Bytes → Digest) (fields : List (Text × Value)) : Except Failure Plan := do
  match ← Request.require "commitments" fields with
  | .list [a, b, c] =>
    let A ← a.toPoint₁ E
    let B ← b.toPoint₁ E
    let C ← c.toPoint₁ E
    return answer (answerFields [("point", .ofFr (Transcript.openingPoint hash A B C))])
  | _ => .error (.malformed .notThreeCommitments)

/-- The witness for the value of a polynomial at a point, as fields and in hex. -/
def forWitness (fields : List (Text × Value)) : Except Failure Plan := do
  let (p, degree) ← polyAndDegree fields
  let z ← (← Request.require "point" fields).toScalar
  return withKey fun key => do
    let w ← E.openAt key (operand p) (.scalar z) degree
    return answerFields [("witness", w.toValue), ("hex", .str w.toHex)]

/-- The witness of a body, in hex if it is a text. -/
def bodyWitness : Value → Except Failure Witness
  | .str s => Witness.ofHex E (.str s)
  | v => Witness.ofValue E v

/-- Whether a witness proves the value that it carries. -/
def forVerify [Mul T] [DecidableEq T] (fields : List (Text × Value)) : Except Failure Plan := do
  let C ← (← Request.require "commitment" fields).toPoint₁ E
  let w ← bodyWitness E (← Request.require "witness" fields)
  return withKey fun key => do
    return answerFields [("result", .bool (← E.verify key C w))]

/-- The plan of a request on a route. -/
def ofRequest [Mul T] [DecidableEq T] (hash : Bytes → Digest) (limit : Int) (route : Route)
    (r : Request) : Except Failure Plan :=
  match route with
  | .key => .ok (forKey r)
  | .reset => .ok reset
  | .setup => do forSetup limit (← r.fields)
  | .commit => do forCommit E (← r.fields)
  | .evaluate => do forEvaluate (← r.fields)
  | .challenge => do forChallenge E hash (← r.fields)
  | .witness => do forWitness E (← r.fields)
  | .verify => do forVerify E (← r.fields)

end Plan

end PolyCommit
