import PolyCommit.Polynomial.Basic
import PolyCommit.Value.Arithmetic
import PolyCommit.Value.Product

/-!
# Polynomials from values

The checks that turn a caller's values into coefficients, points and degrees, and the polynomial
operations behind them. Each check has its place in the order: the degree comes first, then the
number of coefficients, then the coefficients that the degree reads, then the point. Coefficients
past the degree are never looked at.
-/

namespace PolyCommit

namespace Poly

/-- A coefficient; the refusal names the kind of a value that is none. -/
def coefficient (v : Value) : Except Failure Fr :=
  match v.number? with
  | some n => .ok n.toFr
  | none => .error (.malformed (.coefficients (.notNumber v.kind)))

/-- The coefficients that a value lists. -/
def ofValue (v : Value) : Except Failure Poly :=
  match v.entries? with
  | some xs => xs.mapM coefficient
  | none => .error (.malformed (.coefficients (.noEntries v.kind)))

/-- The integer that a degree is, if it is no less than `least`. -/
def degree (least : Nat) (v : Value) : Except Failure Nat :=
  match v.integer? with
  | none => .error (.quoting (.degree (.notInteger v)))
  | some d =>
    if d < least then .error (.quoting (.degree (.below least d))) else .ok d.toNat

/-- The first `n` coefficients of a value. Only lists and texts can be cut. -/
def firstCoefficients (v : Value) (n : Nat) : Except Failure Poly := do
  let some length := v.length? | .error .wrongKind
  if length < n then .error (.quoting (.malformed (.shortPolynomial length n)))
  match v with
  | .list xs => ofValue (.list (xs.take n))
  | .str s => ofValue (.str (s.take n))
  | _ => .error .wrongKind

/-- The value of a polynomial at a point, reading as many coefficients as the degree says. -/
def evaluate (poly point degree : Value) : Except Failure Fr := do
  let n ← Poly.degree 0 degree
  let p ← firstCoefficients poly n
  return p.eval (← point.toFr)

/-- The coefficients of a dividend, which must be a list of numbers. -/
def strictCoefficients : Value → Except Failure Poly
  | .list xs => xs.mapM Value.toFr
  | _ => .error .wrongKind

/-- The entries of a factor. -/
def factorEntries (v : Value) : Except Failure (List Value) :=
  v.entries?.elim (.error .wrongKind) .ok

/-- The product of two polynomials. A factor that is blank in any way counts as empty. The products
of coefficients are formed row by row. -/
def product (a b : Value) : Except Failure Poly := do
  if a.isBlank || b.isBlank then .error (.malformed .emptyFactor)
  let xs ← factorEntries a
  let ys ← factorEntries b
  xs.forM fun x => ys.forM fun y => discard (x.product y)
  return mul (← xs.mapM Value.toFr) (← ys.mapM Value.toFr)

/-- The quotient and remainder of the division by `x - point`. -/
def quotient (poly point : Value) : Except Failure (Poly × Fr) := do
  let some length := poly.length? | .error .wrongKind
  if length < 2 then .error (.malformed .shortDividend)
  let z ← point.toFr
  return (← strictCoefficients poly).divide z

end Poly

end PolyCommit
