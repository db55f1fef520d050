import PolyCommit.Text.HexDigit
import PolyCommit.Text.Printable

/-!
# Quoted text

A text between quotes, on one line and without surprises: single quotes unless it holds a single
quote and no double quote; the quote itself, the backslash, tab, line feed and carriage return by a
letter after a backslash; every other code point that is not printable by its number in hex, two,
four or eight digits wide.
-/

namespace PolyCommit

namespace Text

/-- The quote that is used by default. -/
def singleQuote : CodePoint := CodePoint.ofNat 0x27

/-- The quote around a text that holds single quotes only. -/
def doubleQuote : CodePoint := CodePoint.ofNat 0x22

/-- The mark in front of an escape. -/
def backslash : CodePoint := CodePoint.ofNat 0x5c

/-- A code point inside quotes. -/
def quotedPoint (quote c : CodePoint) : Text :=
  let escaped (letter : Char) (rest : Text) : Text := backslash :: CodePoint.ofChar letter :: rest
  if c = quote || c = backslash then [backslash, c]
  else if c.val = 0x09 then escaped 't' []
  else if c.val = 0x0a then escaped 'n' []
  else if c.val = 0x0d then escaped 'r' []
  else if c.isPrintable then [c]
  else if c.val ≤ 0xff then escaped 'x' (hexDigits 2 c.val)
  else if c.val ≤ 0xffff then escaped 'u' (hexDigits 4 c.val)
  else escaped 'U' (hexDigits 8 c.val)

/-- The text between quotes. -/
def quoted (s : Text) : Text :=
  let quote :=
    if s.contains singleQuote && !s.contains doubleQuote then doubleQuote else singleQuote
  quote :: (s.flatMap (quotedPoint quote) ++ [quote])

end Text

end PolyCommit
