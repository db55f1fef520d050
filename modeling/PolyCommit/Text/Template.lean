import PolyCommit.Decimal.Binary64
import PolyCommit.Text.Ascii
import PolyCommit.Text.Numeral

/-!
# Templates

A template is a text with one place for a number. The place is a percent sign, flags, a width, a
precision and a letter that says how the number is written: `%d` in decimal, `%#x` in hex with its
mark, `%+.3e` with a sign, a point and three places, `%c` as the code point of the number. A star
takes the number itself for the width or the precision. Two percent signs stand for one.

Widths and precisions may be far larger than memory, so texts are kept as runs here, and a result
that there is no room for is refused.
-/

namespace PolyCommit

namespace Template

/-- Why a template cannot be filled in. -/
inductive Flaw
  /-- The template ends within a place. -/
  | incomplete
  /-- No number is written in the way that a letter asks for. -/
  | unknownLetter
  /-- The digits of a width or a precision go beyond what can be counted. -/
  | beyondCount
  /-- A place asks for a field by name. -/
  | namedField
  /-- A place is left when the number is used. -/
  | nothingLeft
  /-- The number is not used. -/
  | unused
  /-- The number is too large for what it is used as. -/
  | tooLarge
  /-- There is no room for the result. -/
  | noRoom
  deriving DecidableEq

/-- A text as runs of one code point each, with their lengths. -/
abbrev Runs := List (CodePoint × Nat)

/-- A text with runs of length one. -/
def ofText (s : Text) : Runs := s.map (·, 1)

/-- A run of a character. -/
def run (c : Char) (n : Nat) : Runs := if n = 0 then [] else [(CodePoint.ofChar c, n)]

/-- The length of the text. -/
def size (s : Runs) : Nat := s.foldl (fun n run => n + run.2) 0

/-- The largest width. -/
def widthLimit : Nat := Nat.pow 2 63 - 1

/-- The largest precision. -/
def precisionLimit : Nat := Nat.pow 2 31 - 1

/-- The flags of a place: to the left, a plus sign, a blank for the sign, the other form, and zeros
in front. -/
structure Flags where
  left : Bool
  plus : Bool
  blank : Bool
  other : Bool
  zeros : Bool

/-- Everything about a place but its letter. -/
structure Layout where
  flags : Flags
  width : Nat
  precision : Option Nat

/-- The flags in front of a text, and what follows them. -/
def takeFlags (f : Flags) : Runs → Flags × Runs
  | [] => (f, [])
  | (c, n) :: s =>
    if c = CodePoint.ofChar '-' then takeFlags { f with left := true } s
    else if c = CodePoint.ofChar '+' then takeFlags { f with plus := true } s
    else if c = CodePoint.ofChar ' ' then takeFlags { f with blank := true } s
    else if c = CodePoint.ofChar '#' then takeFlags { f with other := true } s
    else if c = CodePoint.ofChar '0' then takeFlags { f with zeros := true } s
    else (f, (c, n) :: s)

/-- A number with a digit written behind it `n` times, or a larger one than can be counted. -/
def extend (value digit n : Nat) : Nat :=
  if value = 0 && digit = 0 then 0
  else if 20 ≤ n then widthLimit + 1
  else Nat.repeat (10 * · + digit) n value

/-- The number that digits in front of a text spell, and what follows them. -/
def takeNumber (limit value : Nat) : Runs → Except Flaw (Nat × Runs)
  | [] => .ok (value, [])
  | (c, n) :: s =>
    if c.isAsciiDigit then
      let value := extend value (c.val - 0x30) n
      if limit < value then .error .beyondCount else takeNumber limit value s
    else .ok (value, (c, n) :: s)

/-- The number to be filled in, while it is not used. -/
abbrev Supply := Option Nat

/-- Use the number for a width or a precision. -/
def Supply.useBelow (limit : Nat) : Supply → Except Flaw Nat
  | none => .error .nothingLeft
  | some n => if limit < n then .error .tooLarge else .ok n

/-- A width or a precision in front of a text: a star, digits or nothing. -/
def takeCount (limit : Nat) (supply : Supply) : Runs → Except Flaw (Nat × Supply × Runs)
  | (c, n) :: s => do
    if c = CodePoint.ofChar '*' then return (← supply.useBelow limit, none, s)
    let (value, rest) ← takeNumber limit 0 ((c, n) :: s)
    return (value, supply, rest)
  | [] => .ok (0, supply, [])

/-- A precision in front of a text, after a point. -/
def takePrecision (supply : Supply) : Runs → Except Flaw (Option Nat × Supply × Runs)
  | (c, n) :: s => do
    if c = CodePoint.ofChar '.' then
      let (value, supply, rest) ← takeCount precisionLimit supply s
      return (some value, supply, rest)
    else return (none, supply, (c, n) :: s)
  | [] => .ok (none, supply, [])

/-- A text without a letter for the size of the number, which means nothing. -/
def skipSize : Runs → Runs
  | [] => []
  | (c, n) :: s => if (Text.ofString "hlL").contains c then s else (c, n) :: s

/-- The layout and the letter of a place, after its percent sign. -/
def takePlace (supply : Supply) (s : Runs) :
    Except Flaw (Layout × CodePoint × Supply × Runs) := do
  if s.head?.any (·.1 = CodePoint.ofChar '(') then .error .namedField
  let (flags, s) := takeFlags ⟨false, false, false, false, false⟩ s
  let (width, supply, s) ← takeCount widthLimit supply s
  let (precision, supply, s) ← takePrecision supply s
  match skipSize s with
  | [] => .error .incomplete
  | (letter, _) :: rest => return (⟨flags, width, precision⟩, letter, supply, rest)

/-- A number as it is written, in parts: whether it has a sign, the mark of its base, the rest. -/
structure Written where
  signed : Bool
  mark : Text
  body : Runs

/-- A sign, if the number has one: none shows for a positive number unless it is asked for. -/
def sign (f : Flags) (signed : Bool) : Text :=
  if !signed then []
  else if f.plus then [CodePoint.ofChar '+']
  else if f.blank then [CodePoint.ofChar ' ']
  else []

/-- A written number filled up to the width. -/
def pad (l : Layout) (w : Written) : Except Flaw Runs :=
  let front := sign l.flags w.signed
  let fill := l.width - (front.length + w.mark.length + size w.body)
  let plain := ofText (front ++ w.mark) ++ w.body
  if Text.room < size plain + fill then .error .noRoom
  else if l.flags.left then .ok (plain ++ run ' ' fill)
  else if l.flags.zeros && w.signed then
    .ok (ofText (front ++ w.mark) ++ run '0' fill ++ w.body)
  else .ok (run ' ' fill ++ plain)

/-- Digits in a base up to sixteen, with zeros in front up to the precision. -/
def integer (l : Layout) (base n : Nat) (mark : Text) : Except Flaw Written :=
  let digits := (Nat.toDigits base n).map CodePoint.ofChar
  let places := l.precision.getD 0
  if precisionLimit - 3 < places then .error .tooLarge
  else .ok ⟨true, if l.flags.other then mark else [],
    run '0' (places - digits.length) ++ ofText digits⟩

/-- The leading digits of a number, as many as asked for, rounded half to even, and the power of ten
of the first. -/
def leading (count n : Nat) : Text × Nat :=
  let all := Text.ofNat n
  let dropped := all.length - count
  let digits := Text.ofNat (Binary64.roundHalfEven n (Nat.pow 10 dropped))
  (digits.take count, digits.length + dropped - 1)

/-- Digits behind a point; no point stands where there are none, unless `point` says so. -/
def places (point : Bool) (digits : Runs) : Runs :=
  if digits.isEmpty && !point then [] else run '.' 1 ++ digits

/-- Digits as a mantissa of as many places, with an exponent. -/
def scientific (point : Bool) (digits : Text) (count exponent : Nat) : Runs :=
  let size := Text.ofNat exponent
  let size := if exponent < 10 then Text.asciiDigit 0 :: size else size
  ofText (digits.take 1)
    ++ places point (ofText (digits.drop 1) ++ run '0' (count + 1 - digits.length))
    ++ ofText (Text.ofString "e+" ++ size)

/-- Digits without the zeros at the end. -/
def trimZeros (digits : Text) : Text :=
  (digits.reverse.dropWhile (· = Text.asciiDigit 0)).reverse

/-- A number with as many significant digits as the precision says, positional if they reach the
units. -/
def general (l : Layout) (n : Nat) : Runs :=
  let count := max 1 (l.precision.getD 6)
  let (digits, exponent) := leading count n
  let other := l.flags.other
  let wanted := if other then count else (trimZeros digits).length
  let digits := if other then digits else trimZeros digits
  if exponent < count then
    let whole := digits.take (exponent + 1)
    ofText (whole ++ List.replicate (exponent + 1 - whole.length) (Text.asciiDigit 0))
      ++ places other (ofText (digits.drop (exponent + 1))
        ++ run '0' (wanted - max (exponent + 1) digits.length))
  else scientific other digits (wanted - 1) exponent

/-- A floating-point number that is an integer, by a small letter for its notation. -/
def floating (l : Layout) (letter : Char) (n : Nat) : Runs :=
  let count := l.precision.getD 6
  match letter with
  | 'f' => ofText (Text.ofNat n) ++ places l.flags.other (run '0' count)
  | 'e' =>
    let (digits, exponent) := leading (count + 1) n
    scientific l.flags.other digits count exponent
  | _ => general l n

/-- The floating-point number nearest to a number, as an integer. -/
def nearest (n : Nat) : Except Flaw Nat :=
  match (Binary64.nearest false n 1).truncate? with
  | some k => .ok k.toNat
  | none => .error .tooLarge

/-- Runs with capitals for small letters. -/
def upper (s : Runs) : Runs := s.map fun (c, n) => ((c.upperAscii).headD c, n)

/-- A number as a letter asks for it. -/
def write (l : Layout) (letter : CodePoint) (n : Nat) : Except Flaw Written := do
  let decimal := Text.ofNat n
  match Char.ofNat letter.val with
  | 's' | 'r' | 'a' => return ⟨false, [], ofText (l.precision.elim decimal decimal.take)⟩
  | 'd' | 'i' | 'u' => integer l 10 n []
  | 'o' => integer l 8 n (Text.ofString "0o")
  | 'x' => integer l 16 n (Text.ofString "0x")
  | 'X' =>
    let w ← integer l 16 n (Text.ofString "0X")
    return { w with body := upper w.body }
  | 'c' => if n < 0x110000 then return ⟨false, [], [(CodePoint.ofNat n, 1)]⟩ else .error .tooLarge
  | 'e' | 'f' | 'g' =>
    return ⟨true, [], floating l (Char.ofNat letter.val) (← nearest n)⟩
  | 'E' | 'F' | 'G' =>
    return ⟨true, [], upper (floating l (Char.ofNat (letter.val + 0x20)) (← nearest n))⟩
  | _ => .error .unknownLetter

/-- A template filled in. The number of steps is bounded; one more than there are runs is enough. -/
def fillFrom (supply : Supply) : Nat → Runs → Except Flaw Runs
  | 0, _ | _, [] => if supply.isSome then .error .unused else .ok []
  | steps + 1, (c, n) :: s => do
    if c = CodePoint.ofChar '%' then
      if s.head?.any (·.1 = c) then return (c, n) :: (← fillFrom supply steps s.tail)
      let (layout, letter, supply, rest) ← takePlace supply s
      let some k := supply | .error .nothingLeft
      let text ← pad layout (← write layout letter k)
      return text ++ (← fillFrom none steps rest)
    else return (c, n) :: (← fillFrom supply steps s)

/-- A template filled in with a number. -/
def fill (n : Nat) (s : Runs) : Except Flaw Runs := fillFrom (some n) (s.length + 1) s

end Template

end PolyCommit
