import PolyCommit.Value.Basic
import PolyCommit.Text.Quoted
import PolyCommit.Decimal.Shortest

/-!
# Literals

The text of a value inside an error message: null and truth values by name, numbers as numerals,
texts between quotes, lists and objects with their entries in order.
-/

namespace PolyCommit

namespace Value

mutual

/-- The literal of a value. -/
def literal : Value → Text
  | null => Text.ofString "None"
  | bool b => Text.ofString (if b then "True" else "False")
  | int k => Text.ofInt k
  | float x => x.text
  | str s => s.quoted
  | list xs => CodePoint.ofChar '[' :: (listLiteral xs ++ [CodePoint.ofChar ']'])
  | object fields => Text.openBrace :: (fieldsLiteral fields ++ [Text.closeBrace])
  | scalar x => Text.ofNat x.val

/-- The literals of the entries of a list, with commas between them. -/
def listLiteral : List Value → Text
  | [] => []
  | [v] => v.literal
  | v :: w :: rest => v.literal ++ Text.ofString ", " ++ listLiteral (w :: rest)

/-- The literals of the fields of an object, with commas between them. -/
def fieldsLiteral : List (Text × Value) → Text
  | [] => []
  | [(name, v)] => name.quoted ++ Text.ofString ": " ++ v.literal
  | (name, v) :: field :: rest =>
    name.quoted ++ Text.ofString ": " ++ v.literal ++ Text.ofString ", "
      ++ fieldsLiteral (field :: rest)

end

mutual

/-- Whether no integer in a value has more than `Text.digitLimit` digits. -/
def isWritable : Value → Bool
  | int k => k.natAbs < 10 ^ Text.digitLimit
  | list xs => listWritable xs
  | object fields => fieldsWritable fields
  | _ => true

/-- Whether all entries of a list can be written. -/
def listWritable : List Value → Bool
  | [] => true
  | v :: rest => v.isWritable && listWritable rest

/-- Whether the values of all fields of an object can be written. -/
def fieldsWritable : List (Text × Value) → Bool
  | [] => true
  | (_, v) :: rest => v.isWritable && fieldsWritable rest

end

end Value

end PolyCommit
