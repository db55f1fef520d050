import PolyCommit.Text.Ascii
import PolyCommit.Text.Composition
import PolyCommit.Text.Direction
import PolyCommit.Text.Punycode

/-!
# Host names

A host name is a row of labels between points, each from one to 63 ASCII code points long; nothing
may stand behind the last point. A name of any script has an ASCII form. A label that is not ASCII
is brought into its caseless form, which may hold no control, no white space outside ASCII and
nothing for private use, and must agree in its directions. If that form is not ASCII, it is spelled
behind the mark `xn--`, with which it must not begin itself.
-/

namespace PolyCommit

namespace HostName

/-- The code points that the caseless form of a label may not hold, as ranges, ends included. -/
def prohibited : List (Nat × Nat) := [
  (0x80, 0xa0), (0x340, 0x341), (0x6dd, 0x6dd), (0x70f, 0x70f), (0x1680, 0x1680), (0x180e, 0x180e),
  (0x2000, 0x200f), (0x2028, 0x202f), (0x205f, 0x2063), (0x206a, 0x206f), (0x2ff0, 0x2ffb),
  (0x3000, 0x3000), (0xd800, 0xf8ff), (0xfdd0, 0xfdef), (0xfeff, 0xfeff), (0xfff9, 0xffff),
  (0x1d173, 0x1d17a), (0x1fffe, 0x1ffff), (0x2fffe, 0x2ffff), (0x3fffe, 0x3ffff),
  (0x4fffe, 0x4ffff), (0x5fffe, 0x5ffff), (0x6fffe, 0x6ffff), (0x7fffe, 0x7ffff),
  (0x8fffe, 0x8ffff), (0x9fffe, 0x9ffff), (0xafffe, 0xaffff), (0xbfffe, 0xbffff),
  (0xcfffe, 0xcffff), (0xdfffe, 0xdffff), (0xe0001, 0xe0001), (0xe0020, 0xe007f),
  (0xefffe, 0x10ffff)]

/-- The points that stand between labels. -/
def points : List Nat := [0x2e, 0x3002, 0xff0e, 0xff61]

/-- What stands in front of a spelled label. -/
def mark : Text := Text.ofString "xn--"

/-- Whether a text is ASCII. -/
def isAscii (s : Text) : Bool := s.all fun c => c.val < 0x80

/-- A label of allowed length. -/
def fit? (label : Text) : Option Text :=
  if label.isEmpty || 64 ≤ label.length then none else some label

/-- The caseless form of a label. -/
def prepare? (label : Text) : Option Text :=
  let s := label.caseless
  if s.any (fun c => prohibited.any fun range => range.1 ≤ c.val && c.val ≤ range.2) then none
  else if s.directionsAgree then some s
  else none

/-- The ASCII form of a label. -/
def asciiLabel? (label : Text) : Option Text := do
  if isAscii label then fit? label
  else
    let s ← prepare? label
    if isAscii s then fit? s
    else if mark.isPrefixOf s then none
    else fit? (mark ++ Punycode.encode s)

/-- The labels of a name. The last one is empty if nothing stands behind the last point. -/
def labels (name : Text) : List Text :=
  Text.splitAt (CodePoint.ofChar '.') (name.map fun c =>
    if points.contains c.val then CodePoint.ofChar '.' else c)

/-- Labels with points between them. -/
def join (labels : List Text) : Text := ([CodePoint.ofChar '.'].intercalate labels)

/-- The ASCII form of a name. -/
def ascii? (name : Text) : Option Text := do
  let all := labels name
  let last := all.getLast?.getD []
  let front ← all.dropLast.mapM asciiLabel?
  let last ← if last.isEmpty then some last else asciiLabel? last
  return join (front ++ [last])

/-- Whether a label with the mark is the ASCII form of what it spells. -/
def isSpelling (label : Text) : Bool :=
  if mark.isPrefixOf label then
    (Punycode.decode? (label.drop mark.length)).bind asciiLabel? = some label
  else true

/-- Whether a name in ASCII can be shown: every spelled label can be read. -/
def isReadable (name : Text) : Bool := (labels name).all isSpelling

end HostName

end PolyCommit
