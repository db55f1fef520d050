import PolyCommit.Value.Basic
import PolyCommit.Text.Quoted
import PolyCommit.Decimal.Shortest

/-!
# Printing JSON

The JSON text of a value, in ASCII alone: other code points are written as escapes, those above
U+FFFF as a surrogate pair. The fields of an object are written in the order of their names. A
scalar is written as its numeral between quotes.
-/

namespace PolyCommit

namespace Value

/-- The escape of a code unit by its number. -/
def unitEscape (n : Nat) : Text :=
  Text.backslash :: CodePoint.ofChar 'u' :: Text.hexDigits 4 n

/-- A code point inside a JSON string. -/
def jsonPoint (c : CodePoint) : Text :=
  let short (letter : Char) : Text := [Text.backslash, CodePoint.ofChar letter]
  if c = Text.backslash || c = Text.doubleQuote then [Text.backslash, c]
  else if c.val = 0x08 then short 'b'
  else if c.val = 0x09 then short 't'
  else if c.val = 0x0a then short 'n'
  else if c.val = 0x0c then short 'f'
  else if c.val = 0x0d then short 'r'
  else if 0x20 ≤ c.val && c.val < 0x7f then [c]
  else if c.val < 0x10000 then unitEscape c.val
  else
    let rest := c.val - 0x10000
    unitEscape (0xd800 + rest / 0x400) ++ unitEscape (0xdc00 + rest % 0x400)

/-- A JSON string. -/
def jsonString (s : Text) : Text :=
  Text.doubleQuote :: (s.flatMap jsonPoint ++ [Text.doubleQuote])

/-- The number of the binary format in JSON text. -/
def jsonFloat (x : Binary64) : Text :=
  match x with
  | .nan => Text.ofString "NaN"
  | .infinite negative => Text.ofString (if negative then "-Infinity" else "Infinity")
  | x => x.text

/-- Pieces with commas between them. -/
def commaSeparated : List Text → Text
  | [] => []
  | [piece] => piece
  | piece :: rest => piece ++ CodePoint.ofChar ',' :: commaSeparated rest

mutual

/-- The JSON text of a value. -/
def json : Value → Text
  | null => Text.ofString "null"
  | bool b => Text.ofString (if b then "true" else "false")
  | int k => Text.ofInt k
  | float x => jsonFloat x
  | str s => jsonString s
  | list xs => CodePoint.ofChar '[' :: (commaSeparated (jsonItems xs) ++ [CodePoint.ofChar ']'])
  | object fields =>
    let sorted := (jsonFields fields).mergeSort fun a b => Text.le a.1 b.1
    Text.openBrace :: (commaSeparated (sorted.map (·.2)) ++ [Text.closeBrace])
  | scalar x => jsonString (Text.ofNat x.val)

/-- The JSON texts of the entries of a list. -/
def jsonItems : List Value → List Text
  | [] => []
  | v :: rest => v.json :: jsonItems rest

/-- The names of the fields of an object, each with the JSON text of the whole field. -/
def jsonFields : List (Text × Value) → List (Text × Text)
  | [] => []
  | (name, v) :: rest =>
    (name, jsonString name ++ CodePoint.ofChar ':' :: v.json) :: jsonFields rest

end

end Value

end PolyCommit
