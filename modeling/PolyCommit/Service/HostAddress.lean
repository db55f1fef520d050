import PolyCommit.Text.Ascii
import PolyCommit.Text.HexDigit
import PolyCommit.Text.Numeral

/-!
# Host addresses

What may stand between square brackets as a host: an IPv6 address or an address of a later version.
An IPv6 address has eight groups of one to four hex digits between colons. Two colons in a row,
once, stand for the groups that are missing, at least one. The last two groups may be written as
four numbers below 256 between points. A zone may follow a percent sign. An address of a later
version is a `v`, hex digits, a point and at least one more code point.
-/

namespace PolyCommit

namespace HostAddress

/-- Whether a text is a group of an IPv6 address. -/
def isGroup (s : Text) : Bool :=
  !s.isEmpty && s.length ≤ 4 && s.all fun c => c.hexValue?.isSome

/-- Whether a text is a number below 256, without a zero in front. -/
def isOctet (s : Text) : Bool :=
  !s.isEmpty && s.length ≤ 3 && s.all CodePoint.isAsciiDigit
    && (s.length = 1 || s.head? ≠ some (CodePoint.ofChar '0'))
    && Text.ofDigits s.digitValues < 256

/-- Whether a text is four numbers between points. -/
def isDotted (s : Text) : Bool :=
  let octets := Text.splitAt (CodePoint.ofChar '.') s
  octets.length = 4 && octets.all isOctet

/-- The number of groups that a text spells; the last two may be dotted only if they end the
address. -/
def groups? (atEnd : Bool) (s : Text) : Option Nat :=
  if s.isEmpty then some 0
  else
    let pieces := Text.splitAt (CodePoint.ofChar ':') s
    let last := pieces.getLast?.getD []
    if !pieces.dropLast.all isGroup then none
    else if isGroup last then some pieces.length
    else if atEnd && isDotted last then some (pieces.length + 1)
    else none

/-- What stands before the first two colons in a row, and what stands after them if they are
there. -/
def cutGap : Text → Text × Option Text
  | [] => ([], none)
  | [c] => ([c], none)
  | c :: d :: s =>
    if c = CodePoint.ofChar ':' && d = CodePoint.ofChar ':' then ([], some s)
    else (c :: (cutGap (d :: s)).1, (cutGap (d :: s)).2)

/-- Whether a text is an IPv6 address without a zone. -/
def isGrouped (s : Text) : Bool :=
  match cutGap s with
  | (all, none) => groups? true all = some 8
  | (front, some back) =>
    match groups? false front, groups? true back with
    | some m, some n => m + n ≤ 7
    | _, _ => false

/-- Whether a text is an IPv6 address. -/
def isVersion6 (s : Text) : Bool :=
  match Text.cut (CodePoint.ofChar '%') s with
  | (address, none) => isGrouped address
  | (address, some zone) =>
    isGrouped address && !zone.isEmpty && !zone.contains (CodePoint.ofChar '%')

/-- Whether a text, after its `v`, is an address of a later version. -/
def isLater (s : Text) : Bool :=
  match Text.cut (CodePoint.ofChar '.') s with
  | (version, some rest) =>
    !version.isEmpty && version.all (fun c => c.hexValue?.isSome) && !rest.isEmpty
  | _ => false

/-- Whether a text may stand between brackets. -/
def isValid : Text → Bool
  | [] => false
  | c :: s => if c = CodePoint.ofChar 'v' then isLater s else isVersion6 (c :: s)

end HostAddress

end PolyCommit
