import PolyCommit.Bytes.BigEndian
import PolyCommit.Pairing.System
import PolyCommit.Error

/-!
# Scalars and points as bytes

Every integer takes thirty-two bytes, highest first: a scalar one, a point of the first group two, a
point of the second four. The identity is all zeros. Decoding refuses a wrong length, then an
integer out of range, then a point outside its group.
-/

namespace PolyCommit

/-- The width of an integer. -/
def wordBytes : Nat := 32

/-- The width of an encoded scalar. -/
def scalarBytes : Nat := wordBytes

/-- The width of an encoded point of the first group. -/
def point₁Bytes : Nat := 2 * wordBytes

/-- The width of an encoded point of the second group. -/
def point₂Bytes : Nat := 4 * wordBytes

namespace Encoding

/-- A residue as one integer. -/
def word {n : Nat} (x : Residue n) : Bytes := BigEndian.encode wordBytes x.val

/-- A scalar as bytes. -/
def scalar (x : Fr) : Bytes := word x

/-- A point of the first group as bytes. -/
def point₁ : Point Fq → Bytes
  | none => List.replicate point₁Bytes 0
  | some P => word P.x ++ word P.y

/-- A point of the second group as bytes. -/
def point₂ : Point Fq2 → Bytes
  | none => List.replicate point₂Bytes 0
  | some P => word P.x.c0 ++ word P.x.c1 ++ word P.y.c0 ++ word P.y.c1

/-- The word of a residue has the width of a word. -/
@[simp] theorem length_word {n : Nat} (x : Residue n) : (word x).length = wordBytes :=
  BigEndian.length_encode wordBytes x.val

/-- The encoding of a scalar has its fixed length. -/
@[simp] theorem length_scalar (x : Fr) : (scalar x).length = scalarBytes := length_word x

/-- The encoding of a point of the first group has its fixed length. -/
@[simp] theorem length_point₁ (P : Point Fq) : (point₁ P).length = point₁Bytes := by
  cases P <;> simp [point₁, point₁Bytes, wordBytes]

/-- The encoding of a point of the second group has its fixed length. -/
@[simp] theorem length_point₂ (P : Point Fq2) : (point₂ P).length = point₂Bytes := by
  cases P <;> simp [point₂, point₂Bytes, wordBytes]

end Encoding

namespace Decoding

/-- Refuse an encoding that is not `count` integers long. -/
def sized (part : Part) (count : Nat) (data : Bytes) : Except Failure Unit :=
  if data.length = count * wordBytes then .ok ()
  else .error (.malformed (.encodingLength part data.length (count * wordBytes)))

/-- The integer in the place `k` of an encoding, which has to be below `n`. -/
def word (part : Part) (n : Nat) (data : Bytes) (k : Nat) : Except Failure (Residue n) :=
  let v := BigEndian.decode ((data.drop (k * wordBytes)).take wordBytes)
  if h : v < n then .ok ⟨v, h⟩ else .error (.malformed (.encodingRange part))

/-- The scalar that bytes spell. -/
def scalar (data : Bytes) : Except Failure Fr := do
  sized .scalar 1 data
  word .scalar groupOrder data 0

variable {T : Type}

/-- The point of the first group that bytes spell. -/
def point₁ (E : PairingSystem T) (data : Bytes) : Except Failure (Point Fq) := do
  sized .point₁ 2 data
  let x ← word .point₁ fieldModulus data 0
  let y ← word .point₁ fieldModulus data 1
  if x = 0 && y = 0 then return none
  if E.g₁.contains (some ⟨x, y⟩) then return some ⟨x, y⟩
  .error (.malformed .offCurve₁)

/-- The point of the second group that bytes spell. -/
def point₂ (E : PairingSystem T) (data : Bytes) : Except Failure (Point Fq2) := do
  sized .point₂ 4 data
  let x0 ← word .point₂ fieldModulus data 0
  let x1 ← word .point₂ fieldModulus data 1
  let y0 ← word .point₂ fieldModulus data 2
  let y1 ← word .point₂ fieldModulus data 3
  let P : Affine Fq2 := ⟨⟨x0, x1⟩, ⟨y0, y1⟩⟩
  if P.x = 0 && P.y = 0 then return none
  if E.g₂.contains (some P) then return some P
  .error (.malformed .offGroup₂)

end Decoding

end PolyCommit
