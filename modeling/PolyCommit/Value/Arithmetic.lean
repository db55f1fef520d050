import PolyCommit.Error
import PolyCommit.Decimal.Count
import PolyCommit.Curve.PointGroup
import PolyCommit.Text.Template

/-!
# Arithmetic on values

Scalar arithmetic where one operand is a scalar and the other any value. Integers are reduced for
sums, differences, products and quotients, but compared as they are; a value that is no number has
no meaning in either. Powers and multiples of points also take floating-point counts.

A text as a count is a template, because a remainder of a text is the text filled in; and an integer
times a text or a list is a repetition. Neither ends in a scalar, but both can fail before that is
noticed, and the first failure is the one that counts.
-/

namespace PolyCommit

/-- The operations on scalars. -/
inductive ScalarOp
  | add
  | sub
  | mul
  | div
  deriving DecidableEq

/-- The comparisons of scalars. -/
inductive Comparison
  | eq
  | ne
  | lt
  | le
  | gt
  | ge
  deriving DecidableEq

/-- The operation itself. -/
def ScalarOp.apply : ScalarOp → Fr → Fr → Fr
  | add, a, b => a + b
  | sub, a, b => a - b
  | mul, a, b => a * b
  | div, a, b => a / b

/-- Whether a comparison holds between two integers. -/
def Comparison.holds : Comparison → Int → Int → Bool
  | eq, a, b => a = b
  | ne, a, b => a ≠ b
  | lt, a, b => a < b
  | le, a, b => a ≤ b
  | gt, a, b => b < a
  | ge, a, b => b ≤ a

namespace Value

/-- The number that a value is. -/
def number (v : Value) : Except Failure Number :=
  match v.number? with
  | some n => .ok n
  | none => .error .wrongKind

/-- The scalar that a value stands for: integers and truth values are reduced. -/
def toFr (v : Value) : Except Failure Fr := return (← v.number).toFr

/-- An operation on two values. -/
def combine (op : ScalarOp) (a b : Value) : Except Failure Fr := do
  let x ← a.number
  let y ← b.number
  return op.apply x.toFr y.toFr

/-- A comparison of two values, with no reduction. -/
def compare (op : Comparison) (a b : Value) : Except Failure Bool := do
  let x ← a.number
  let y ← b.number
  return op.holds x.toInt y.toInt

/-- The negative of a value. -/
def negate (v : Value) : Except Failure Number :=
  return match ← v.number with
    | .int k => .int (-k)
    | .scalar x => .scalar (-x)

/-- The count that a value is: an integer, or a truth value as one. -/
def count (v : Value) : Except Failure Int :=
  match v.number? with
  | some (.int k) => .ok k
  | _ => .error .wrongKind

/-- What a flaw of a template means for the text as a count. -/
def flawFailure : Template.Flaw → Failure
  | .incomplete | .unknownLetter | .beyondCount => .badValue
  | .namedField | .nothingLeft | .unused => .wrongKind
  | .tooLarge => .tooLarge
  | .noRoom => .noRoom

/-- Why a text cannot be halved: it is filled in with two, and what comes out is no number. -/
def halvingFailure (s : Template.Runs) : Failure :=
  match Template.fill 2 s with
  | .error flaw => flawFailure flaw
  | .ok _ => .wrongKind

/-- Why a text cannot be a multiplier of points: it is filled in with the order of the group, and
what comes out is halved. -/
def multiplierFailure (s : Text) : Failure :=
  match Template.fill groupOrder (Template.ofText s) with
  | .error flaw => flawFailure flaw
  | .ok filled => halvingFailure filled

/-- The power of a scalar. A scalar is an exponent only if it is zero or one; halving a negative
exponent never comes to an end. -/
def power (a b : Value) : Except Failure Fr :=
  match a, b with
  | scalar x, scalar y => if y.val ≤ 1 then .ok (x.pow y.val) else .error .wrongKind
  | scalar x, float y =>
    match y, y.steps? with
    | _, some k => .ok (x.pow k)
    | .finite .., none => .error (.fault .endless)
    | _, none => .error .badValue
  | scalar _, str s => .error (halvingFailure (Template.ofText s))
  | scalar x, b => do
    let k := (← b.number).toInt
    if 0 ≤ k then .ok (x.pow k.toNat) else .error (.fault .endless)
  | _, _ => .error .wrongKind

/-- The multiple of a point by a value. -/
def multiple {F : Type} (G : PointGroup F) (v : Value) (P : Point F) :
    Except Failure (Point F) :=
  match v with
  | float x =>
    match (x.remainder? groupOrder).bind Binary64.steps? with
    | some k => .ok (G.multiple k P)
    | none => .error .badValue
  | str s => .error (multiplierFailure s)
  | v => return G.mul (← v.number).toInt P

end Value

end PolyCommit
