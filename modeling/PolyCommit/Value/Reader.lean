import PolyCommit.Value.Basic
import PolyCommit.Text.Ascii
import PolyCommit.Text.Numeral
import PolyCommit.Text.Quoted

/-!
# Reading JSON

A reader takes a value off the front of a text and returns what follows. The grammar is that of JSON
with three more numbers, `NaN`, `Infinity` and `-Infinity`. A numeral with a fraction or an exponent
is a binary floating-point number, any other an integer, which may have at most `Text.digitLimit`
digits. An escape may leave a surrogate standing alone; two that form a pair are one code point. Of
two fields with one name the later value counts, in the earlier place.

Every reader that calls itself takes a bound on the number of calls; the length of the text is
enough.
-/

namespace PolyCommit

namespace Value

namespace Reader

/-- Space, tab, line feed and carriage return. -/
def isSpace (c : CodePoint) : Bool :=
  c.val = 0x20 || c.val = 0x09 || c.val = 0x0a || c.val = 0x0d

/-- A text without the white space in front. -/
def skip (s : Text) : Text := s.dropWhile isSpace

/-- What follows a fixed word. -/
def word (w : String) (s : Text) : Option Text :=
  let w := Text.ofString w
  if w.isPrefixOf s then some (s.drop w.length) else none

/-- The number of four hex digits. -/
def fourHex : Text → Option (Nat × Text)
  | a :: b :: c :: d :: rest => do
    let n := (((← a.hexValue?) * 16 + (← b.hexValue?)) * 16 + (← c.hexValue?)) * 16
    some (n + (← d.hexValue?), rest)
  | _ => none

/-- The low half of a surrogate pair, if an escape in front spells one. -/
def lowHalf : Text → Option (Nat × Text)
  | a :: b :: rest => do
    if a = Text.backslash && b = CodePoint.ofChar 'u' then
      let (n, rest) ← fourHex rest
      if 0xdc00 ≤ n && n ≤ 0xdfff then some (n, rest) else none
    else none
  | _ => none

/-- The code point of an escape by number. -/
def numberEscape (s : Text) : Option (CodePoint × Text) := do
  let (n, rest) ← fourHex s
  if 0xd800 ≤ n && n ≤ 0xdbff then
    match lowHalf rest with
    | some (low, rest) =>
      some (CodePoint.ofNat (0x10000 + (n - 0xd800) * 0x400 + (low - 0xdc00)), rest)
    | none => some (CodePoint.ofNat n, rest)
  else some (CodePoint.ofNat n, rest)

/-- The code point of an escape, after its backslash. -/
def escape : Text → Option (CodePoint × Text)
  | [] => none
  | c :: rest =>
    if c = Text.doubleQuote || c = Text.backslash || c = CodePoint.ofChar '/' then some (c, rest)
    else if c = CodePoint.ofChar 'b' then some (CodePoint.ofNat 0x08, rest)
    else if c = CodePoint.ofChar 'f' then some (CodePoint.ofNat 0x0c, rest)
    else if c = CodePoint.ofChar 'n' then some (CodePoint.ofNat 0x0a, rest)
    else if c = CodePoint.ofChar 'r' then some (CodePoint.ofNat 0x0d, rest)
    else if c = CodePoint.ofChar 't' then some (CodePoint.ofNat 0x09, rest)
    else if c = CodePoint.ofChar 'u' then numberEscape rest
    else none

/-- The text of a string, after its opening quote. -/
def string : Nat → Text → Option (Text × Text)
  | 0, _ => none
  | _, [] => none
  | steps + 1, c :: s =>
    if c = Text.doubleQuote then some ([], s)
    else if c = Text.backslash then do
      let (point, s) ← escape s
      let (text, s) ← string steps s
      some (point :: text, s)
    else if c.val < 0x20 then none
    else do
      let (text, s) ← string steps s
      some (c :: text, s)

/-- The digits of a fraction, after the whole digits; none if no digit follows the point. -/
def fraction : Text → Option (Text × Text)
  | c :: rest =>
    if c = CodePoint.ofChar '.' && !(rest.takeWhile CodePoint.isAsciiDigit).isEmpty then
      some (rest.takeWhile CodePoint.isAsciiDigit, rest.dropWhile CodePoint.isAsciiDigit)
    else none
  | [] => none

/-- The sign and digits of an exponent; none if no digit follows. -/
def exponent : Text → Option (Int × Text)
  | c :: rest =>
    if c = CodePoint.ofChar 'e' || c = CodePoint.ofChar 'E' then
      let (negative, rest) := match rest with
        | d :: tail =>
          if d = CodePoint.ofChar '-' then (true, tail)
          else if d = CodePoint.ofChar '+' then (false, tail)
          else (false, d :: tail)
        | [] => (false, [])
      let digits := rest.takeWhile CodePoint.isAsciiDigit
      let size : Int := Text.ofDigits (Text.digitValues digits)
      if digits.isEmpty then none
      else some (if negative then -size else size, rest.dropWhile CodePoint.isAsciiDigit)
    else none
  | [] => none

/-- The whole digits of a numeral: a zero alone, or digits that begin with another. -/
def whole (s : Text) : Option (Text × Text) :=
  let digits := s.takeWhile CodePoint.isAsciiDigit
  match digits with
  | [] => none
  | d :: _ =>
    if d = CodePoint.ofChar '0' then some ([d], s.drop 1)
    else some (digits, s.dropWhile CodePoint.isAsciiDigit)

/-- A number. -/
def number (s : Text) : Option (Value × Text) := do
  let (negative, s) := match s with
    | c :: rest => if c = CodePoint.ofChar '-' then (true, rest) else (false, c :: rest)
    | [] => (false, [])
  let (digits, s) ← whole s
  match fraction s, exponent ((fraction s).elim s (·.2)) with
  | none, none =>
    match Text.Reading.ofDigits (Text.digitValues digits) with
    | .number n => some (.int (if negative then -(n : Int) else n), s)
    | _ => none
  | decimals, power =>
    let places := decimals.elim [] (·.1)
    let size := Text.ofDigits (Text.digitValues (digits ++ places))
    let scale : Int := power.elim 0 (·.1) - places.length
    let rest := power.elim (decimals.elim s (·.2)) (·.2)
    some (.float (Binary64.ofDecimal negative size scale), rest)

/-- A value that a fixed word or a numeral spells. -/
def simple (s : Text) : Option (Value × Text) :=
  match word "null" s, word "true" s, word "false" s with
  | some rest, _, _ => some (.null, rest)
  | _, some rest, _ => some (.bool true, rest)
  | _, _, some rest => some (.bool false, rest)
  | _, _, _ =>
    match word "NaN" s, word "Infinity" s, word "-Infinity" s with
    | some rest, _, _ => some (.float .nan, rest)
    | _, some rest, _ => some (.float (.infinite false), rest)
    | _, _, some rest => some (.float (.infinite true), rest)
    | _, _, _ => number s

mutual

/-- A value, with no white space in front. -/
def value : Nat → Text → Option (Value × Text)
  | 0, _ => none
  | _, [] => none
  | steps + 1, c :: s =>
    if c = Text.doubleQuote then do
      let (text, s) ← string steps s
      return (.str text, s)
    else if c = CodePoint.ofChar '[' then
      match skip s with
      | [] => none
      | d :: rest =>
        if d = CodePoint.ofChar ']' then some (.list [], rest)
        else do
          let (xs, s) ← items steps (d :: rest)
          return (.list xs, s)
    else if c = Text.openBrace then
      match skip s with
      | [] => none
      | d :: rest =>
        if d = Text.closeBrace then some (.object [], rest)
        else do
          let (fields, s) ← fields steps [] (d :: rest)
          return (.object fields, s)
    else simple (c :: s)

/-- The entries of a list up to its closing bracket; at least one. -/
def items : Nat → Text → Option (List Value × Text)
  | 0, _ => none
  | steps + 1, s => do
    let (v, s) ← value steps s
    match skip s with
    | [] => none
    | c :: s =>
      if c = CodePoint.ofChar ']' then some ([v], s)
      else if c = CodePoint.ofChar ',' then do
        let (rest, s) ← items steps (skip s)
        return (v :: rest, s)
      else none

/-- The fields of an object up to its closing brace, put into those read before; at least one. -/
def fields : Nat → List (Text × Value) → Text → Option (List (Text × Value) × Text)
  | 0, _, _ => none
  | _, _, [] => none
  | steps + 1, before, c :: s =>
    if c = Text.doubleQuote then do
      let (name, s) ← string steps s
      match skip s with
      | [] => none
      | colon :: s =>
        if colon = CodePoint.ofChar ':' then do
          let (v, s) ← value steps (skip s)
          let all := setField name v before
          match skip s with
          | [] => none
          | d :: s =>
            if d = Text.closeBrace then some (all, s)
            else if d = CodePoint.ofChar ',' then fields steps all (skip s)
            else none
        else none
    else none

end

end Reader

/-- The value that a whole text spells, white space around it aside. -/
def ofJson? (s : Text) : Option Value := do
  let (v, rest) ← Reader.value (2 * s.length + 2) (Reader.skip s)
  if (Reader.skip rest).isEmpty then some v else none

end Value

end PolyCommit
