import PolyCommit.Text.Basic

/-!
# Hex digits

Numbers below sixteen as code points. Writing uses small letters, reading takes either case.
-/

namespace PolyCommit

namespace CodePoint

/-- The value of a hex digit of either case. -/
def hexValue? (c : CodePoint) : Option Nat :=
  if 0x30 ≤ c.val && c.val ≤ 0x39 then some (c.val - 0x30)
  else if 0x41 ≤ c.val && c.val ≤ 0x46 then some (c.val - 0x37)
  else if 0x61 ≤ c.val && c.val ≤ 0x66 then some (c.val - 0x57)
  else none

/-- The hex digit of a value below sixteen. -/
def hexDigit (d : Nat) : CodePoint := CodePoint.ofNat (if d < 10 then 0x30 + d else 0x57 + d)

/-- A written digit is read. -/
theorem hexValue?_hexDigit {d : Nat} (h : d < 16) : (hexDigit d).hexValue? = some d := by
  suffices hall : ∀ d : Fin 16, (hexDigit d.val).hexValue? = some d.val from hall ⟨d, h⟩
  decide

end CodePoint

namespace Text

/-- The lowest `width` hex digits of `n`. -/
def hexDigits : Nat → Nat → Text
  | 0, _ => []
  | width + 1, n => hexDigits width (n / 16) ++ [CodePoint.hexDigit (n % 16)]

end Text

end PolyCommit
