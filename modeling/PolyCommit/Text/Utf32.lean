import PolyCommit.Text.Utf16

/-!
# UTF-32

Reading a text from units of four bytes, one to a code point, the highest byte first or last.
-/

namespace PolyCommit

namespace Text

/-- The code point of a unit, if there is one with its number. -/
def ofUnit32? (order : ByteOrder) (a b c d : UInt8) : Option CodePoint :=
  let n := match order with
    | .highFirst => ((0x100 * a.toNat + b.toNat) * 0x100 + c.toNat) * 0x100 + d.toNat
    | .lowFirst => ((0x100 * d.toNat + c.toNat) * 0x100 + b.toNat) * 0x100 + a.toNat
  if h : n < 0x110000 then some ⟨n, h⟩ else none

/-- The text of bytes; none if some are left over. -/
def ofUtf32? (order : ByteOrder) : List UInt8 → Option Text
  | [] => some []
  | a :: b :: c :: d :: rest => do
    return (← ofUnit32? order a b c d) :: (← ofUtf32? order rest)
  | _ => none

end Text

end PolyCommit
