import PolyCommit.Error
import PolyCommit.Pairing.System
import PolyCommit.Polynomial.Basic
import PolyCommit.Text.Numeral

/-!
# Scalars and points as JSON values

Integers travel as decimal texts, because they are too large for JSON numbers. A scalar is one text,
a point of the first group a list of two, a point of the second group a list of two lists of two,
and the identity is null. Reading also takes integers and texts of decimal digits of any script. A
point of the second group is taken apart by entries, so that a text or an object of two can stand
for a list.
-/

namespace PolyCommit

namespace Value

/-- A natural number as a value. -/
def ofNat (n : Nat) : Value := str (Text.ofNat n)

/-- A scalar as a value. -/
def ofFr (x : Fr) : Value := ofNat x.val

/-- A coordinate of the second group as a value. -/
def ofFq2 (a : Fq2) : Value := list [ofNat a.c0.val, ofNat a.c1.val]

/-- A point of the first group as a value. -/
def ofPoint₁ : Point Fq → Value
  | none => null
  | some P => list [ofNat P.x.val, ofNat P.y.val]

/-- A point of the second group as a value. -/
def ofPoint₂ : Point Fq2 → Value
  | none => null
  | some P => list [ofFq2 P.x, ofFq2 P.y]

/-- The coefficients of a polynomial as a value. -/
def ofPoly (p : Poly) : Value := list (p.map ofFr)

/-- The integer that a value is or spells. -/
def toDecimal (v : Value) : Except Failure Int :=
  match v with
  | int k => .ok k
  | str s =>
    match s.decimal with
    | .number n => .ok n
    | .tooLong => .error .badValue
    | .refused => .error (.quoting (.malformed (.notDecimal v)))
  | v => .error (.quoting (.malformed (.notDecimal v)))

/-- The residue that a value spells by its representative, with a refusal for any other integer. -/
def toResidue (n : Nat) (refusal : Malformed) (v : Value) : Except Failure (Residue n) := do
  let k ← toDecimal v
  if h : k.toNat < n then
    if 0 ≤ k then .ok ⟨k.toNat, h⟩ else .error (.quoting (.malformed refusal))
  else .error (.quoting (.malformed refusal))

/-- The scalar that a value spells. -/
def toScalar (v : Value) : Except Failure Fr := toResidue groupOrder (.scalarRange v) v

/-- The coordinate that a value spells. -/
def toCoordinate (v : Value) : Except Failure Fq := toResidue fieldModulus (.coordinateRange v) v

/-- The polynomial that a list of values spells. -/
def toPoly (v : Value) : Except Failure Poly :=
  match v with
  | list xs => xs.mapM toScalar
  | v => .error (.quoting (.malformed (.polynomialShape v)))

variable {T : Type}

/-- The point of the first group that a value spells. -/
def toPoint₁ (E : PairingSystem T) (v : Value) : Except Failure (Point Fq) :=
  match v with
  | null => .ok none
  | list [a, b] => do
    let x ← toCoordinate a
    let y ← toCoordinate b
    if E.g₁.contains (some ⟨x, y⟩) then return some ⟨x, y⟩
    .error (.malformed .offCurve₁)
  | v => .error (.quoting (.malformed (.pointShape₁ v)))

/-- The two entries of a value that has two. -/
def twoEntries? (v : Value) : Option (Value × Value) :=
  match v.entries? with
  | some [a, b] => some (a, b)
  | _ => none

/-- The four coordinates of a point of the second group, in order. -/
def fourEntries? (v : Value) : Option (Value × Value × Value × Value) := do
  let (x, y) ← v.twoEntries?
  let (x0, x1) ← x.twoEntries?
  let (y0, y1) ← y.twoEntries?
  return (x0, x1, y0, y1)

/-- The point of the second group that a value spells. -/
def toPoint₂ (E : PairingSystem T) (v : Value) : Except Failure (Point Fq2) :=
  match v with
  | null => .ok none
  | v =>
    match v.fourEntries? with
    | none => .error (.quoting (.malformed (.pointShape₂ v)))
    | some (a0, a1, b0, b1) => do
      let x0 ← toCoordinate a0
      let x1 ← toCoordinate a1
      let y0 ← toCoordinate b0
      let y1 ← toCoordinate b1
      let P : Affine Fq2 := ⟨⟨x0, x1⟩, ⟨y0, y1⟩⟩
      if E.g₂.contains (some P) then return some P
      .error (.malformed .offGroup₂)

/-- The field of an object. -/
def field (name : String) (v : Value) : Except Misfit Value :=
  match v with
  | object fields =>
    match lookup (Text.ofString name) fields with
    | some w => .ok w
    | none => .error (.missing (Text.ofString name))
  | list _ => .error .listByName
  | str _ => .error .textByName
  | v => .error (.noFields v.kind)

end Value

end PolyCommit
