/-!
# Text

A text is a list of code points. Surrogates may stand alone in it, which is why it is not a string:
escapes in a JSON document can produce them, and they have to come out again as they went in.
-/

namespace PolyCommit

/-- A code point, surrogates included. -/
abbrev CodePoint := Fin 0x110000

/-- A text, code point by code point. -/
abbrev Text := List CodePoint

namespace CodePoint

/-- The code point of a character. -/
def ofChar (c : Char) : CodePoint :=
  ⟨c.val.toNat, by
    have h := c.valid
    simp only [UInt32.isValidChar, Nat.isValidChar] at h
    omega⟩

/-- The code point with a number, which counts modulo their number. -/
def ofNat (n : Nat) : CodePoint := ⟨n % 0x110000, Nat.mod_lt n (Nat.succ_pos _)⟩

/-- Whether a code point is one half of a surrogate pair. -/
def isSurrogate (c : CodePoint) : Bool := 0xd800 ≤ c.val && c.val ≤ 0xdfff

end CodePoint

namespace Text

/-- The mark in front of fields. -/
def openBrace : CodePoint := CodePoint.ofNat 0x7b

/-- The mark after fields. -/
def closeBrace : CodePoint := CodePoint.ofNat 0x7d

/-- The most bytes of a text, or of a list, that there is room for. -/
def room : Nat := Nat.pow 2 34

/-- The text of a string. -/
def ofString (s : String) : Text := s.toList.map CodePoint.ofChar

/-- Code points compared one by one, the shorter text first when it begins the longer. -/
def le : Text → Text → Bool
  | [], _ => true
  | _ :: _, [] => false
  | a :: s, b :: t => a < b || (a = b && le s t)

/-- The text cut at every `mark`; there is one piece more than there are marks. -/
def splitAt (mark : CodePoint) : Text → List Text
  | [] => [[]]
  | c :: s =>
    match splitAt mark s with
    | [] => [[c]]
    | piece :: rest => if c = mark then [] :: piece :: rest else (c :: piece) :: rest

/-- What stands before the first `mark`, and what stands after it if there is one. -/
def cut (mark : CodePoint) : Text → Text × Option Text
  | [] => ([], none)
  | c :: s =>
    if c = mark then ([], some s)
    else ((c :: (cut mark s).1), (cut mark s).2)

/-- The text without the code points of a class at either end. -/
def trim (blank : CodePoint → Bool) (s : Text) : Text :=
  ((s.dropWhile blank).reverse.dropWhile blank).reverse

end Text

end PolyCommit
