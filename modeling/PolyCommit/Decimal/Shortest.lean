import PolyCommit.Decimal.Binary64
import PolyCommit.Text.Numeral

/-!
# The shortest decimal

A number of the binary format is written with the fewest digits that read back as it, and among
those the nearest. For each count of digits from one to seventeen the two neighbours of the number
on that decimal grid are tried in exact arithmetic, and the first grid with a hit wins.

The notation is positional for decimal exponents from `-4` to `15`, with `.0` after an integer, and
scientific beyond, with a sign and at least two digits in the exponent.
-/

namespace PolyCommit

namespace Binary64

/-- The reals that round to a finite number: its value and the ends of the interval in units of
`2^(exponent - 2)`, and whether the ends belong to it. -/
structure Basin where
  lower : Nat
  value : Nat
  upper : Nat
  unit : Int
  closed : Bool

/-- The interval around `mantissa · 2^exponent`. Below a power of two the grid is twice as fine. -/
def basin (mantissa : Nat) (exponent : Int) : Basin where
  lower :=
    if mantissa = Nat.pow 2 52 && exponent ≠ minExponent then 4 * mantissa - 1
    else 4 * mantissa - 2
  value := 4 * mantissa
  upper := 4 * mantissa + 2
  unit := exponent - 2
  closed := mantissa % 2 = 0

/-- `a · 2^p` against `b · 10^q` on a common integer scale. -/
def commonScale (a : Nat) (p : Int) (b : Nat) (q : Int) : Nat × Nat :=
  (a * Nat.pow 2 p.toNat * Nat.pow 10 (-q).toNat, b * Nat.pow 2 (-p).toNat * Nat.pow 10 q.toNat)

/-- Whether `digits · 10^place` rounds to the number in the middle of the interval. -/
def Basin.holds (s : Basin) (digits : Nat) (place : Int) : Bool :=
  let (low, d) := commonScale s.lower s.unit digits place
  let (high, d') := commonScale s.upper s.unit digits place
  if s.closed then low ≤ d && d' ≤ high else low < d && d' < high

/-- The largest multiple of `10^place` that is at most the number, as a count. -/
def Basin.floor (s : Basin) (place : Int) : Nat :=
  let (v, unit) := commonScale s.value s.unit 1 place
  v / unit

/-- The candidate with units of `10^place`: of the two neighbours of the number the one that reads
back, and of two the nearer; a tie goes to the even one. -/
def Basin.candidate (s : Basin) (place : Int) : Option Nat :=
  let low := s.floor place
  let (v, unit) := commonScale s.value s.unit 1 place
  let twice := 2 * (v % unit)
  let lowFirst := twice < unit || (twice = unit && low % 2 = 0)
  match s.holds low place, s.holds (low + 1) place with
  | true, true => some (if lowFirst then low else low + 1)
  | true, false => some low
  | false, true => some (low + 1)
  | false, false => none

/-- The decimal exponent of the leading digit, found from an estimate by at most a few steps. -/
def Basin.leading (s : Basin) (steps : Nat) (guess : Int) : Int :=
  match steps with
  | 0 => guess
  | steps + 1 => if 0 < s.floor guess then guess else s.leading steps (guess - 1)

/-- Digits and the place of the last one, with no zero at the end. -/
def trimZeros (steps digits : Nat) (place : Int) : Nat × Int :=
  match steps with
  | 0 => (digits, place)
  | steps + 1 =>
    if digits % 10 = 0 then trimZeros steps (digits / 10) (place + 1) else (digits, place)

/-- The shortest digits of a positive number, and the place of the last one. -/
def shortest (mantissa : Nat) (exponent : Int) : Nat × Int :=
  let s := basin mantissa exponent
  let top := s.leading 4 (((mantissa.log2 : Int) + exponent) * 30103 / 100000 + 1)
  let grids := (List.range 17).map fun (n : Nat) => top - n
  match grids.findSome? fun place => (s.candidate place).map (·, place) with
  | some (digits, place) => trimZeros 17 digits place
  | none => (mantissa, exponent)

/-- Digits with a point after the first `n` of them. -/
def pointAfter (n : Nat) (digits : Text) : Text :=
  let mark := CodePoint.ofChar '.'
  if digits.length ≤ n then
    digits ++ List.replicate (n - digits.length) (Text.asciiDigit 0) ++ [mark, Text.asciiDigit 0]
  else digits.take n ++ mark :: digits.drop n

/-- Digits in scientific notation, with no point after a single digit. -/
def scientific (digits : Text) (exponent : Int) : Text :=
  let sign := CodePoint.ofChar (if exponent < 0 then '-' else '+')
  let size := Text.ofNat exponent.natAbs
  let size := if size.length < 2 then Text.asciiDigit 0 :: size else size
  let head := match digits with
    | d :: e :: rest => d :: CodePoint.ofChar '.' :: e :: rest
    | ds => ds
  head ++ CodePoint.ofChar 'e' :: sign :: size

/-- Digits and the place of the last one, in the notation that their size calls for. -/
def notate (digits : Nat) (place : Int) : Text :=
  let text := Text.ofNat digits
  let exponent : Int := place + text.length - 1
  if exponent < -4 || 16 ≤ exponent then scientific text exponent
  else if exponent < 0 then
    Text.ofString "0." ++ List.replicate (-exponent - 1).toNat (Text.asciiDigit 0) ++ text
  else pointAfter (exponent + 1).toNat text

/-- The text of a number of the format. -/
def text : Binary64 → Text
  | nan => Text.ofString "nan"
  | infinite negative => Text.ofString (if negative then "-inf" else "inf")
  | finite negative mantissa exponent =>
    let size :=
      if mantissa = 0 then Text.ofString "0.0"
      else
        let (digits, place) := shortest mantissa exponent
        notate digits place
    if negative then CodePoint.ofChar '-' :: size else size

end Binary64

end PolyCommit
