import PolyCommit.Text.Utf32
import PolyCommit.Text.Utf8
import PolyCommit.Value.Reader

/-!
# JSON documents

A JSON document as bytes. Its encoding form is not declared but seen: a mark in front names it, and
without a mark the places of zeros among the first four bytes, or among the two of a shorter
document, tell it, because a document begins with an ASCII character. Where nothing tells, the form
is UTF-8. A mark is not part of the text.
-/

namespace PolyCommit

/-- The encoding forms of a document. -/
inductive EncodingForm
  | utf8
  | utf16 (order : ByteOrder)
  | utf32 (order : ByteOrder)
  deriving DecidableEq

namespace EncodingForm

/-- The marks of the forms. The longer ones are looked for first, because a mark of UTF-16 begins
one of UTF-32. -/
def marks : List (List UInt8 × EncodingForm) :=
  [([0x00, 0x00, 0xfe, 0xff], utf32 .highFirst), ([0xff, 0xfe, 0x00, 0x00], utf32 .lowFirst),
    ([0xfe, 0xff], utf16 .highFirst), ([0xff, 0xfe], utf16 .lowFirst), ([0xef, 0xbb, 0xbf], utf8)]

/-- The form of bytes without a mark. -/
def ofZeros : List UInt8 → EncodingForm
  | [a, b] => if a = 0 then utf16 .highFirst else if b = 0 then utf16 .lowFirst else utf8
  | a :: b :: c :: d :: _ =>
    if a = 0 then (if b = 0 then utf32 .highFirst else utf16 .highFirst)
    else if b = 0 then (if c = 0 && d = 0 then utf32 .lowFirst else utf16 .lowFirst)
    else utf8
  | _ => utf8

/-- The form of a document, and its bytes without a mark. -/
def detect (bytes : List UInt8) : EncodingForm × List UInt8 :=
  match marks.find? fun entry => entry.1.isPrefixOf bytes with
  | some entry => (entry.2, bytes.drop entry.1.length)
  | none => (ofZeros bytes, bytes)

/-- The text of bytes in a form. -/
def text? : EncodingForm → List UInt8 → Option Text
  | utf8, bytes => Text.ofUtf8? bytes
  | utf16 order, bytes => Text.ofUtf16? order bytes
  | utf32 order, bytes => Text.ofUtf32? order bytes

end EncodingForm

namespace Value

/-- The value of a document. -/
def ofDocument? (bytes : List UInt8) : Option Value := do
  let (form, rest) := EncodingForm.detect bytes
  ofJson? (← form.text? rest)

end Value

end PolyCommit
