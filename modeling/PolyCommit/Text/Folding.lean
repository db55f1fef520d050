import PolyCommit.Text.FoldingTable
import PolyCommit.Text.HexDigit

/-!
# Caseless folding

What is left of a code point when case and compatibility differences do not matter, fully
decomposed: a capital becomes its small letter, a ligature its letters, a letter with an accent the
letter and the accent. Joiners, variation selectors and the soft hyphen become nothing.
-/

namespace PolyCommit

namespace Folding

/-- The number that hex digits spell. -/
def number (s : Text) : Nat := s.foldl (fun n c => 16 * n + c.hexValue?.getD 0) 0

/-- The entry of a row in a place; none if the row keeps the code point there. -/
def entry? (row : String) (place : Nat) : Option Text :=
  match (Text.splitAt (CodePoint.ofChar ' ') (Text.ofString row))[place]? with
  | some piece =>
    if piece = [CodePoint.ofChar '-'] then none
    else some ((Text.splitAt (CodePoint.ofChar '.') piece).map fun s => CodePoint.ofNat (number s))
  | none => none

/-- The last row that begins at or before a number. -/
def row? (n : Nat) : Option (Nat × String) := (rows.takeWhile (·.1 ≤ n)).getLast?

/-- The code points that become nothing, as ranges, ends included. -/
def dropped : List (Nat × Nat) := [
  (0xad, 0xad), (0x34f, 0x34f), (0x1806, 0x1806), (0x180b, 0x180d), (0x200b, 0x200d),
  (0x2060, 0x2060), (0xfe00, 0xfe0f), (0xfeff, 0xfeff)]

/-- The parts of a syllable of Hangul: a leading consonant, a vowel, and perhaps a trailing
consonant. -/
def syllable? (n : Nat) : Option (List Nat) :=
  if 0xac00 ≤ n && n ≤ 0xd7a3 then
    let place := n - 0xac00
    let front := [0x1100 + place / 588, 0x1161 + place % 588 / 28]
    some (if place % 28 = 0 then front else front ++ [0x11a7 + place % 28])
  else none

end Folding

namespace CodePoint

/-- What a code point is folded to. -/
def folded (c : CodePoint) : Text :=
  if Folding.dropped.any fun range => range.1 ≤ c.val && c.val ≤ range.2 then []
  else
    match Folding.syllable? c.val, Folding.row? c.val with
    | some parts, _ => parts.map CodePoint.ofNat
    | none, some (first, row) => (Folding.entry? row (c.val - first)).getD [c]
    | none, none => [c]

end CodePoint

namespace Text

/-- A text folded code point by code point. -/
def folded (s : Text) : Text := (s.map CodePoint.folded).flatten

end Text

end PolyCommit
