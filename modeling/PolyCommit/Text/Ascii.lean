import PolyCommit.Text.Basic

/-!
# ASCII letters and digits

The letters and digits of ASCII, and the case of letters as far as ASCII is concerned: a code point
is changed when its other case is written in ASCII. Besides the letters themselves these are the
Kelvin sign, which becomes a small k, and nine small letters and ligatures and the sharp s, whose
capitals are one to three ASCII letters.
-/

namespace PolyCommit

namespace CodePoint

/-- Whether a code point is an ASCII digit. -/
def isAsciiDigit (c : CodePoint) : Bool := 0x30 ≤ c.val && c.val ≤ 0x39

/-- Whether a code point is an ASCII letter. -/
def isAsciiLetter (c : CodePoint) : Bool :=
  (0x41 ≤ c.val && c.val ≤ 0x5a) || (0x61 ≤ c.val && c.val ≤ 0x7a)

/-- The small letter of a code point, if it is ASCII; else the code point. -/
def lowerAscii (c : CodePoint) : CodePoint :=
  if h : 0x41 ≤ c.val ∧ c.val ≤ 0x5a then ⟨c.val + 0x20, by omega⟩
  else if c.val = 0x212a then ofChar 'k'
  else c

/-- Small letters outside ASCII whose capitals are ASCII: the sharp s, the dotless i, the long s and
the ligatures of f and of s. -/
def asciiCapitals : List (Nat × String) :=
  [(0xdf, "SS"), (0x131, "I"), (0x17f, "S"), (0xfb00, "FF"), (0xfb01, "FI"), (0xfb02, "FL"),
    (0xfb03, "FFI"), (0xfb04, "FFL"), (0xfb05, "ST"), (0xfb06, "ST")]

/-- The capitals of a code point, if they are ASCII; else the code point. -/
def upperAscii (c : CodePoint) : Text :=
  if h : 0x61 ≤ c.val ∧ c.val ≤ 0x7a then [⟨c.val - 0x20, by omega⟩]
  else
    match asciiCapitals.lookup c.val with
    | some letters => Text.ofString letters
    | none => [c]

end CodePoint

namespace Text

/-- The values of a text of ASCII digits. -/
def digitValues (s : Text) : List Nat := s.map fun c => c.val - 0x30

/-- The text with small letters for capitals. -/
def lowerAscii (s : Text) : Text := s.map CodePoint.lowerAscii

/-- The text with capitals for small letters. -/
def upperAscii (s : Text) : Text := (s.map CodePoint.upperAscii).flatten

end Text

end PolyCommit
