import PolyCommit.Service.Authority

/-!
# References

A text taken apart into scheme, authority, path and query: the scheme ends at a colon, two slashes
begin an authority, a question mark begins a query. A fragment after a number sign is dropped, and
so are controls and spaces in front, and tabs and line ends anywhere.
-/

namespace PolyCommit

/-- The parts of a reference; a part that is missing is empty. -/
structure Reference where
  scheme : Text
  authority : Text
  path : Text
  query : Text

namespace Reference

/-- Whether a code point may stand in a scheme after its first letter. -/
def isSchemePoint (c : CodePoint) : Bool :=
  c.isAsciiLetter || c.isAsciiDigit || (Text.ofString "+-.").contains c

/-- A text without the controls and spaces in front, and without tabs and line ends. -/
def clean (s : Text) : Text :=
  (s.dropWhile fun c => c.val ≤ 0x20).filter fun c =>
    c.val ≠ 0x09 && c.val ≠ 0x0a && c.val ≠ 0x0d

/-- The scheme in small letters, and what follows its colon. -/
def cutScheme (s : Text) : Text × Text :=
  match Text.cut (CodePoint.ofChar ':') s with
  | (c :: scheme, some rest) =>
    if c.isAsciiLetter && scheme.all isSchemePoint then (Text.lowerAscii (c :: scheme), rest)
    else ([], s)
  | _ => ([], s)

/-- Whether a code point ends an authority. -/
def endsAuthority (c : CodePoint) : Bool := (Text.ofString "/?#").contains c

/-- The authority after two slashes, and what follows it. -/
def cutAuthority : Text → Text × Text
  | c :: d :: s =>
    if c = CodePoint.ofChar '/' && d = CodePoint.ofChar '/' then
      (s.takeWhile (!endsAuthority ·), s.dropWhile (!endsAuthority ·))
    else ([], c :: d :: s)
  | s => ([], s)

/-- The parts of a text, if what stands for the authority may do so. -/
def ofText (s : Text) : Except Failure Reference :=
  let (scheme, rest) := cutScheme (clean s)
  let (authority, rest) := cutAuthority rest
  let (path, query) := Text.cut (CodePoint.ofChar '?') (Text.cut (CodePoint.ofChar '#') rest).1
  if Authority.isPlausible authority then .ok ⟨scheme, authority, path, query.getD []⟩
  else .error .badValue

/-- The path, and the query after a question mark if there is one. -/
def relative (r : Reference) : Text :=
  if r.query.isEmpty then r.path else r.path ++ CodePoint.ofChar '?' :: r.query

/-- The scheme, the authority in normal form, and the path. -/
def normalPath (r : Reference) : Except Failure Text := do
  if r.path.any CodePoint.isSurrogate then .error .loneSurrogate
  let authority ← Authority.ofText r.authority
  let scheme := if r.scheme.isEmpty then [] else r.scheme ++ [CodePoint.ofChar ':']
  let slashes := if authority.text.isEmpty then [] else Text.ofString "//"
  return scheme ++ slashes ++ authority.text ++ r.path

end Reference

end PolyCommit
