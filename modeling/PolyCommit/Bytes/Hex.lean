import PolyCommit.Bytes.BigEndian
import PolyCommit.Text.Blank
import PolyCommit.Text.HexDigit

/-!
# Hex text

Byte strings as pairs of hex digits. Writing uses small letters and nothing else; reading takes
either case and ASCII white space before, between and after pairs, but not inside one.
-/

namespace PolyCommit

namespace Hex

/-- The two digits of a byte. -/
def pair (b : UInt8) : Text := Text.hexDigits 2 b.toNat

/-- The hex text of a byte string. -/
def encode (bytes : Bytes) : Text := bytes.flatMap pair

/-- The byte string that a hex text spells. -/
def decode? : Text → Option Bytes
  | [] => some []
  | [c] => if c.isAsciiBlank then some [] else none
  | c :: d :: s =>
    if c.isAsciiBlank then decode? (d :: s)
    else
      match c.hexValue?, d.hexValue? with
      | some high, some low => (decode? s).map (UInt8.ofNat (16 * high + low) :: ·)
      | _, _ => none

end Hex

end PolyCommit
