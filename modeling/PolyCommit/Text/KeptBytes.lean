import PolyCommit.Text.Utf8

/-!
# Kept bytes

A text that may hold bytes which are no UTF-8. Such a byte is kept as the low surrogate that ends in
it, so that every row of bytes has a text and comes back from it.
-/

namespace PolyCommit

namespace CodePoint

/-- The surrogate that keeps a byte. -/
def keep (b : UInt8) : CodePoint := ofNat (0xdc00 + b.toNat)

/-- The bytes of a code point, of which a surrogate may keep one above ASCII. -/
def keptUtf8? (c : CodePoint) : Option (List UInt8) :=
  if 0xdc80 ≤ c.val && c.val ≤ 0xdcff then some [UInt8.ofNat (c.val - 0xdc00)] else c.utf8?

end CodePoint

namespace Text

/-- The bytes of a text, kept ones among them. -/
def keptUtf8? (s : Text) : Option (List UInt8) := (s.mapM CodePoint.keptUtf8?).map List.flatten

/-- The text of bytes, which keeps those that are no UTF-8. -/
def ofKeptUtf8 : List UInt8 → Text
  | [] => []
  | b :: rest =>
    match leading? (b :: rest) with
    | some (c, tail) => c :: ofKeptUtf8 (rest.drop tail)
    | none => CodePoint.keep b :: ofKeptUtf8 rest
termination_by bytes => bytes.length
decreasing_by
  · exact Nat.lt_succ_of_le (by simp)
  · exact Nat.lt_succ_self _

end Text

end PolyCommit
