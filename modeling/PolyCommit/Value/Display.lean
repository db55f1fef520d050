import PolyCommit.Value.Points

/-!
# Numbers for display

The integer that a value can be turned into, and short forms of scalars and points in which the
middle of a long numeral is left out.
-/

namespace PolyCommit

namespace Value

/-- The integer that a value can be turned into: a number as it is, a floating-point number cut
toward zero, and a text by the grammar of integers. -/
def wholeNumber : Value → Except Failure Int
  | bool b => .ok (if b then 1 else 0)
  | int k => .ok k
  | scalar x => .ok x.val
  | float x =>
    match x with
    | .infinite _ => .error (.fault .tooLarge)
    | x => x.truncate?.elim (.error .badValue) .ok
  | str s => s.integer?.elim (.error .badValue) .ok
  | _ => .error .wrongKind

/-- The numeral of a value, if it has not too many digits. -/
def numeral (v : Value) : Except Failure Text := do
  let k ← v.wholeNumber
  if (int k).isWritable then .ok (Text.ofInt k) else .error .badValue

/-- The numerals of the entries of a value. -/
def numerals (v : Value) : Except Failure (List Text) :=
  match v.entries? with
  | some xs => xs.mapM numeral
  | none => .error .wrongKind

/-- A text of more than `limit` code points by its first and its last four. -/
def abbreviated (limit : Nat) (s : Text) : Text :=
  if s.length ≤ limit then s
  else s.take 4 ++ Text.ofString "..." ++ s.drop (s.length - 4)

/-- The short form of a value that can be turned into an integer; null is shown by name. -/
def shortNumeral (v : Value) : Except Failure Text :=
  match v with
  | null => .ok (Text.ofString "None")
  | v => return abbreviated 10 (← v.numeral)

/-- The short form of a point of the first group. -/
def shortPoint₁ : Point Fq → Text
  | none => Text.ofString "∞"
  | some P =>
    Text.ofString "(" ++ abbreviated 8 (Text.ofNat P.x.val) ++ Text.ofString ", "
      ++ abbreviated 8 (Text.ofNat P.y.val) ++ Text.ofString ")"

end Value

end PolyCommit
