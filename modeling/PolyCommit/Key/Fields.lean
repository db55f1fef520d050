import PolyCommit.Key.Basic
import PolyCommit.Value.Points

/-!
# Keys as JSON values

An object with the two lists of points. Both fields are looked up before either is read.
-/

namespace PolyCommit

namespace Key

/-- The name of the field with the points of the first group. -/
def name₁ : String := "g1_powers"

/-- The name of the field with the points of the second group. -/
def name₂ : String := "g2_powers"

/-- A key as a value. -/
def toValue (key : Key) : Value :=
  .object [(Text.ofString name₁, .list (key.points₁.map Value.ofPoint₁)),
    (Text.ofString name₂, .list (key.points₂.map Value.ofPoint₂))]

/-- A field of a key. -/
def keyField (name : String) (v : Value) : Except Failure Value :=
  match v.field name with
  | .ok w => .ok w
  | .error misfit => .error (.malformed (.keyFields misfit))

/-- The entries of a field of a key. -/
def fieldEntries (v : Value) : Except Failure (List Value) :=
  match v.entries? with
  | some xs => .ok xs
  | none => .error .wrongKind

/-- The key that a value spells. -/
def ofValue {T : Type} (E : PairingSystem T) (v : Value) : Except Failure Key := do
  let list₁ ← keyField name₁ v
  let list₂ ← keyField name₂ v
  let points₁ ← (← fieldEntries list₁).mapM (Value.toPoint₁ E)
  let points₂ ← (← fieldEntries list₂).mapM (Value.toPoint₂ E)
  ofPoints points₁ points₂

end Key

end PolyCommit
