import PolyCommit.Text.Basic

/-!
# UTF-16

Reading a text from units of two bytes, the higher byte first or last. A high surrogate and a low
one after it are one code point; any other surrogate is passed as it stands.
-/

namespace PolyCommit

/-- Which byte of a unit comes first. -/
inductive ByteOrder
  | highFirst
  | lowFirst
  deriving DecidableEq

namespace Text

/-- The units of bytes; none if one byte is left over. -/
def units16? (order : ByteOrder) : List UInt8 → Option (List Nat)
  | [] => some []
  | [_] => none
  | a :: b :: rest => do
    let unit := match order with
      | .highFirst => 0x100 * a.toNat + b.toNat
      | .lowFirst => 0x100 * b.toNat + a.toNat
    return unit :: (← units16? order rest)

/-- The text of units. -/
def ofUnits16 : List Nat → Text
  | [] => []
  | [u] => [CodePoint.ofNat u]
  | u :: v :: rest =>
    if 0xd800 ≤ u && u < 0xdc00 && 0xdc00 ≤ v && v < 0xe000 then
      CodePoint.ofNat (0x10000 + (u - 0xd800) * 0x400 + (v - 0xdc00)) :: ofUnits16 rest
    else CodePoint.ofNat u :: ofUnits16 (v :: rest)

/-- The text of bytes. -/
def ofUtf16? (order : ByteOrder) (bytes : List UInt8) : Option Text :=
  (units16? order bytes).map ofUnits16

end Text

end PolyCommit
