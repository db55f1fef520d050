import PolyCommit.Text.Basic

/-!
# Blank code points

Two classes of white space: the six of ASCII, which hex text may carry between bytes, and the wider
class that may surround an integer. The four separators from U+001C to U+001F are in neither.
-/

namespace PolyCommit

namespace CodePoint

/-- Tab, line feed, vertical tab, form feed, carriage return and space. -/
def isAsciiBlank (c : CodePoint) : Bool := (0x09 ≤ c.val && c.val ≤ 0x0d) || c.val = 0x20

/-- ASCII white space, the next-line control and the space, line and paragraph separators. -/
def isBlank (c : CodePoint) : Bool :=
  c.isAsciiBlank || c.val = 0x85 || c.val = 0xa0 || c.val = 0x1680
    || (0x2000 ≤ c.val && c.val ≤ 0x200a) || c.val = 0x2028 || c.val = 0x2029
    || c.val = 0x202f || c.val = 0x205f || c.val = 0x3000

end CodePoint

end PolyCommit
