/-!
# Binary floating point

Numbers of the 64-bit binary format as exact data: a sign, a mantissa and a power of two. Reading a
decimal rounds the exact rational to the nearest such number, ties to the even mantissa; the
truncation to an integer is exact.
-/

namespace PolyCommit

/-- A number of the 64-bit binary format. -/
inductive Binary64
  /-- The number `± mantissa · 2^exponent`. Rounding leaves the mantissa below `2^53` and the
  exponent at least `-1074`, and the mantissa at least `2^52` above that exponent. -/
  | finite (negative : Bool) (mantissa : Nat) (exponent : Int)
  /-- What is too large. -/
  | infinite (negative : Bool)
  /-- Not a number. -/
  | nan
  deriving DecidableEq

namespace Binary64

/-- The integer nearest to `num / den`, a half going to the even neighbour. -/
def roundHalfEven (num den : Nat) : Nat :=
  let q := num / den
  let twice := 2 * (num % den)
  if twice < den then q
  else if den < twice then q + 1
  else q + q % 2

/-- The least exponent. -/
def minExponent : Int := -1074

/-- `num / den` in units of `2^exponent`, as a quotient of natural numbers. -/
def inUnits (num den : Nat) (exponent : Int) : Nat × Nat :=
  if 0 ≤ exponent then (num, den * Nat.pow 2 exponent.toNat)
  else (num * Nat.pow 2 (-exponent).toNat, den)

/-- The number of the format nearest to `num / den`, for a positive `den`. -/
def nearest (negative : Bool) (num den : Nat) : Binary64 :=
  if num = 0 then finite negative 0 minExponent
  else
    let guess := max minExponent ((num.log2 : Int) - den.log2 - 53)
    let floor := (inUnits num den guess).1 / (inUnits num den guess).2
    let exponent := if Nat.pow 2 53 ≤ floor then guess + 1 else guess
    let mantissa := roundHalfEven (inUnits num den exponent).1 (inUnits num den exponent).2
    let (mantissa, exponent) :=
      if mantissa = Nat.pow 2 53 then (Nat.pow 2 52, exponent + 1) else (mantissa, exponent)
    if 971 < exponent then infinite negative else finite negative mantissa exponent

/-- The number of the format nearest to `± digits · 10^exponent`. Decimals far outside the range of
the format are told by the number of their digits, before any power of ten is formed. -/
def ofDecimal (negative : Bool) (digits : Nat) (exponent : Int) : Binary64 :=
  let order := (digits.log2 : Int) * 30103 / 100000 + exponent
  if digits = 0 || order < -400 then finite negative 0 minExponent
  else if 400 < order then infinite negative
  else if 0 ≤ exponent then nearest negative (digits * Nat.pow 10 exponent.toNat) 1
  else nearest negative digits (Nat.pow 10 (-exponent).toNat)

/-- Whether the number is zero, of either sign. -/
def isZero : Binary64 → Bool
  | finite _ m _ => m = 0
  | _ => false

/-- The integer part, cut toward zero; none for what is not finite. -/
def truncate? : Binary64 → Option Int
  | finite negative m e =>
    let size : Nat := if 0 ≤ e then m * Nat.pow 2 e.toNat else m / Nat.pow 2 (-e).toNat
    some (if negative then -(size : Int) else size)
  | _ => none

end Binary64

end PolyCommit
