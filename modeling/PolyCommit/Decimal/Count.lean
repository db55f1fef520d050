import PolyCommit.Decimal.Binary64

/-!
# Floating-point counts

A floating-point number used to count repetitions. Halving such a count down to one, with a step
left over at every half that is not even, goes through `x` steps when `x` is an integer, and
otherwise through the odd number of steps that is within one of `x`.
-/

namespace PolyCommit

namespace Binary64

/-- The number of steps that `num / den` counts. -/
def stepsOf (num den : Nat) : Nat :=
  if num % den = 0 then num / den else 2 * (num / (2 * den)) + 1

/-- A natural number `m · 2^e` as a quotient. -/
def quotient (m : Nat) (e : Int) : Nat × Nat := (m * Nat.pow 2 e.toNat, Nat.pow 2 (-e).toNat)

/-- The steps that a number counts; none if it is negative or not finite. -/
def steps? : Binary64 → Option Nat
  | finite negative m e =>
    if negative && m ≠ 0 then none
    else some (stepsOf (quotient m e).1 (quotient m e).2)
  | _ => none

/-- The remainder modulo the number of the format nearest to `n`, not negative, rounded to the
format; none for what is not finite. -/
def remainder? (n : Nat) : Binary64 → Option Binary64
  | finite negative m e =>
    match nearest false n 1 with
    | finite _ m' e' =>
      let a := m * Nat.pow 2 (e - min e e').toNat
      let b := m' * Nat.pow 2 (e' - min e e').toNat
      let rest := if negative && a % b ≠ 0 then b - a % b else a % b
      some (nearest false (rest * Nat.pow 2 (min e e').toNat) (Nat.pow 2 (-min e e').toNat))
    | _ => none
  | _ => none

end Binary64

end PolyCommit
