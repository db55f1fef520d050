import PolyCommit.Error

/-!
# Products of values

The product of two values as a term of a sum of scalars. Two numbers have one. An integer times a
floating-point number is a floating-point number, and an integer times a text or a list repeats it;
these are no terms, but that is noticed only after they are formed, and forming them can fail.
-/

namespace PolyCommit

namespace Value

/-- The largest count of repetitions, and of code points in a text. -/
def repetitionLimit : Nat := Nat.pow 2 63 - 1

/-- The bytes that every code point of a text takes: as many as the largest one needs. -/
def pointBytes (s : Text) : Nat :=
  if s.all (·.val < 0x100) then 1 else if s.all (·.val < 0x10000) then 2 else 4

/-- Why a text or a list does not stand for a term when it is repeated; `length` is its length,
`unit` the size of an entry, and `excess` what happens if the result has more entries than can be
counted. -/
def repetitionFailure (k : Int) (length unit : Nat) (excess : Failure) : Failure :=
  if k < -(repetitionLimit + 1) || repetitionLimit < k then .tooLarge
  else if repetitionLimit < k.toNat * length then excess
  else if Text.room < k.toNat * length * unit then .noRoom
  else .wrongKind

/-- Why an integer times a value that is no number is not a term. -/
def scaledFailure (k : Int) : Value → Failure
  | float _ =>
    match Binary64.nearest false k.natAbs 1 with
    | .infinite _ => .tooLarge
    | _ => .wrongKind
  | str s => repetitionFailure k s.length (pointBytes s) .tooLarge
  | list xs => repetitionFailure k xs.length 8 .noRoom
  | _ => .wrongKind

/-- The product of two values as a term. -/
def product (a b : Value) : Except Failure Fr :=
  match a.number?, b.number? with
  | some x, some y => .ok (x.toFr * y.toFr)
  | some (.int k), none => .error (scaledFailure k b)
  | none, some (.int k) => .error (scaledFailure k a)
  | _, _ => .error .wrongKind

end Value

end PolyCommit
