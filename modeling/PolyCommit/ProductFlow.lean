import PolyCommit.Commitment
import PolyCommit.Transcript

/-!
# Opening a product

Two polynomials and their product are committed to, the three commitments decide the point by
hashing, and all three are opened there. At that point the value of the product is the product of
the values.
-/

namespace PolyCommit

/-- Three of a kind: for the two factors and for their product. -/
structure Triple (α : Type) where
  left : α
  right : α
  product : α

/-- Everything that the flow produces. -/
structure ProductFlow where
  product : Poly
  commitments : Triple (Point Fq)
  point : Fr
  values : Triple Fr
  witnesses : Triple Witness

namespace Triple

/-- The members in order. -/
def toList {α : Type} (t : Triple α) : List α := [t.left, t.right, t.product]

/-- Do the same to all three, in order. -/
def mapM {α β : Type} (f : α → Except Failure β) (t : Triple α) : Except Failure (Triple β) := do
  let left ← f t.left
  let right ← f t.right
  let product ← f t.product
  return ⟨left, right, product⟩

end Triple

namespace ProductFlow

variable {T : Type}

/-- The degree that reads all of a polynomial. -/
def fullDegree (v : Value) : Value := .int (v.length?.getD 0)

/-- The flow for two polynomials given as values. -/
def run (E : PairingSystem T) (hash : Bytes → Digest) (key : Key) (a b : Value) :
    Except Failure ProductFlow := do
  let product ← Poly.product a b
  let polys : Triple Value := ⟨a, b, .list (product.map .scalar)⟩
  let commitments ← polys.mapM fun p => E.commit key p (fullDegree p)
  let point := Transcript.openingPoint hash commitments.left commitments.right commitments.product
  let values ← polys.mapM fun p => Poly.evaluate p (.scalar point) (fullDegree p)
  let witnesses ← polys.mapM fun p => E.openAt key p (.scalar point) (fullDegree p)
  return ⟨product, commitments, point, values, witnesses⟩

end ProductFlow

end PolyCommit
