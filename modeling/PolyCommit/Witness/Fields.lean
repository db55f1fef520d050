import PolyCommit.Witness.Basic
import PolyCommit.Value.Points

/-!
# Witnesses as JSON values

An object with the point, the value and the quotient. Each field is looked up and read before the
next.
-/

namespace PolyCommit

namespace Witness

/-- The names of the fields. -/
def pointName : String := "point"

@[inherit_doc pointName]
def valueName : String := "eval_commit"

@[inherit_doc pointName]
def quotientName : String := "quotient_commit"

/-- A witness as a value. -/
def toValue (w : Witness) : Value :=
  .object [(Text.ofString pointName, Value.ofFr w.point),
    (Text.ofString valueName, Value.ofPoint₁ w.value),
    (Text.ofString quotientName, Value.ofPoint₁ w.quotient)]

/-- A field of a witness. -/
def witnessField (name : String) (v : Value) : Except Failure Value :=
  match v.field name with
  | .ok w => .ok w
  | .error misfit => .error (.malformed (.witnessFields misfit))

/-- The witness that a value spells. -/
def ofValue {T : Type} (E : PairingSystem T) (v : Value) : Except Failure Witness := do
  let point ← (← witnessField pointName v).toScalar
  let value ← (← witnessField valueName v).toPoint₁ E
  let quotient ← (← witnessField quotientName v).toPoint₁ E
  return ⟨point, value, quotient⟩

end Witness

end PolyCommit
