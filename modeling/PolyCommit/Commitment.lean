import PolyCommit.Key.Basic
import PolyCommit.Witness.Basic
import PolyCommit.Window
import PolyCommit.Polynomial.Input

/-!
# Commitments and openings

A commitment is the value of a polynomial at the hidden scalar of a key, as a multiple of the key's
first power. An opening proves the value at another point `z`: the polynomial minus its value is
divisible by `x - z`, and the commitment to the quotient shows it. The pairings check
`p(a) - p(z) = q(a)·(a - z)` for the hidden scalar `a` without knowing it.
-/

namespace PolyCommit

namespace PairingSystem

variable {T : Type} (E : PairingSystem T)

/-- The check of a degree against the number of powers of a key. A degree that counts coefficients
at hand can always be quoted. -/
def checkSize (size : Nat) (poly : Value) (n : Nat) : Except Failure Unit :=
  if size < n then
    if poly.length?.any (n ≤ ·) then .error (.refused (.beyondKey n size))
    else .error (.quoting (.beyondKey n size))
  else .ok ()

/-- The degree as an integer no less than `least` and no larger than the key. -/
def keyDegree (key : Key) (least : Nat) (poly degree : Value) : Except Failure Nat := do
  let n ← Poly.degree least degree
  checkSize key.size₁ poly n
  return n

/-- The commitment to the polynomial of the first `degree` coefficients. -/
def commit (key : Key) (poly degree : Value) : Except Failure (Point Fq) := do
  let n ← keyDegree key 1 poly degree
  let p ← Poly.firstCoefficients poly n
  Window.sum E.g₁ key.points₁ (p.map .scalar) 0 n

/-- The witness for the value at a point of the polynomial of the first `degree` coefficients. -/
def openAt (key : Key) (poly point degree : Value) : Except Failure Witness := do
  let n ← keyDegree key 2 poly degree
  let p ← Poly.firstCoefficients poly n
  let z ← point.toFr
  let y := p.eval z
  let (quotient, remainder) := Poly.divide (p.modify (n - 1) (· - y)) z
  if remainder ≠ 0 then .error (.refused .remainder)
  let commitment ← Window.sum E.g₁ key.points₁ (quotient.map .scalar) 1 n
  return ⟨z, E.g₁.scale y (key.points₁.headD none), commitment⟩

/-- The pairing of two points, which have to be on their curves. -/
def pairing (Q : Point Fq2) (P : Point Fq) : Except Failure T :=
  match E.pair Q P with
  | some t => .ok t
  | none => .error .badValue

/-- Whether a witness proves the value that it carries of the polynomial behind a commitment. The
key needs two powers of the second group. -/
def verify [Mul T] [DecidableEq T] (key : Key) (commitment : Point Fq) (w : Witness) :
    Except Failure Bool :=
  match key.points₂ with
  | g :: h :: _ => do
    let shifted := E.g₂.sub h (E.g₂.scale w.point g)
    let left ← E.pairing g commitment
    let quotient ← E.pairing shifted w.quotient
    let value ← E.pairing g w.value
    return left = quotient * value
  | _ => .error (.malformed .singlePower₂)

end PairingSystem

end PolyCommit
