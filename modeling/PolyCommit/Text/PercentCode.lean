import PolyCommit.Text.Ascii
import PolyCommit.Text.HexDigit
import PolyCommit.Text.Utf8

/-!
# Percent codes

A percent sign and two hex digits stand for a byte. Decoding takes every such code and leaves all
else as it is, code points outside ASCII included; a byte is kept as the code point of its number.
Encoding spells the UTF-8 bytes of every code point that may not stand for itself.
-/

namespace PolyCommit

namespace Text

/-- The text with every code replaced by the byte that it spells. -/
def percentDecode : Text → Text
  | [] => []
  | [c] => [c]
  | [c, d] => [c, d]
  | c :: d :: e :: s =>
    if c = CodePoint.ofChar '%' then
      match d.hexValue?, e.hexValue? with
      | some high, some low => CodePoint.ofNat (16 * high + low) :: percentDecode s
      | _, _ => c :: percentDecode (d :: e :: s)
    else c :: percentDecode (d :: e :: s)

/-- Whether a code point stands for itself everywhere: letters, digits and four marks. -/
def isUnreserved (c : CodePoint) : Bool :=
  c.isAsciiLetter || c.isAsciiDigit || (ofString "_.-~").contains c

/-- The code of a byte. -/
def percentCode (b : UInt8) : Text := CodePoint.ofChar '%' :: hexDigits 2 b.toNat

/-- The text with codes for all that is neither unreserved nor among `kept`; none if a surrogate
stands alone in it. -/
def percentEncode? (kept : Text) (s : Text) : Option Text := do
  let pieces ← s.mapM fun c =>
    if isUnreserved c || kept.contains c then some [c]
    else (c.utf8?).map fun bytes => (bytes.map percentCode).flatten
  return pieces.flatten

end Text

end PolyCommit
