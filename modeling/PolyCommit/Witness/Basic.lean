import PolyCommit.Bytes.Points
import PolyCommit.Bytes.Hex
import PolyCommit.Value.Arithmetic

/-!
# Witnesses

A witness says that a committed polynomial has a value at a point. It carries the point, the value
as a multiple of the key's first power, and the commitment to the quotient.
-/

namespace PolyCommit

/-- A witness for the value of a polynomial at a point. -/
structure Witness where
  point : Fr
  value : Point Fq
  quotient : Point Fq
  deriving DecidableEq

namespace Witness

/-- The number of points in a witness. -/
def pointCount : Nat := 2

/-- The width of an encoded witness. -/
def byteCount : Nat := scalarBytes + 2 * point₁Bytes

/-- The size of an encoded witness in bits. -/
def bits : Nat := 8 * byteCount

/-- A one-line description. -/
def describe (w : Witness) : String := s!"Witness(point={w.point.val})"

/-- The bytes of a witness: the point, the value, the quotient. -/
def toBytes (w : Witness) : Bytes :=
  Encoding.scalar w.point ++ Encoding.point₁ w.value ++ Encoding.point₁ w.quotient

variable {T : Type}

/-- The witness that bytes spell. -/
def ofBytes (E : PairingSystem T) (data : Bytes) : Except Failure Witness := do
  if data.length ≠ byteCount then
    .error (.malformed (.witnessLength data.length byteCount))
  let point ← Decoding.scalar (data.take scalarBytes)
  let value ← Decoding.point₁ E ((data.drop scalarBytes).take point₁Bytes)
  let quotient ← Decoding.point₁ E (data.drop (scalarBytes + point₁Bytes))
  return ⟨point, value, quotient⟩

/-- The hex text of a witness. -/
def toHex (w : Witness) : Text := Hex.encode w.toBytes

/-- The witness that a hex text spells; a value that is no text is refused like a bad text. -/
def ofHex (E : PairingSystem T) (v : Value) : Except Failure Witness :=
  match v with
  | .str s =>
    match Hex.decode? s with
    | some data => ofBytes E data
    | none => .error (.malformed .witnessHex)
  | _ => .error (.malformed .witnessHex)

/-- The encoding of a witness has its fixed length. -/
@[simp] theorem length_toBytes (w : Witness) : w.toBytes.length = byteCount := by
  simp [toBytes, byteCount]
  omega

end Witness

end PolyCommit
