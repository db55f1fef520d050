import PolyCommit.Service.Reference

/-!
# Request targets

What a request asks for, and of whom. The target is a reference, whose scheme and authority say how
the service is reached. The rest of it is a reference again, of which the path and the query count;
and the path is brought into normal form as a reference of its own. So a path that begins with two
slashes gives up its first name as an authority twice over, and only then keeps it.

In a path and in a query a percent code stands for a byte, and in a query a plus sign is a space.
Paths and names that matter are ASCII, so bytes above it are kept as they come.
-/

namespace PolyCommit

/-- A target: how the service is reached, the decoded path with one slash in front, and the
query. -/
structure Target where
  scheme : Text
  authority : Authority
  path : Text
  query : Text

namespace Target

/-- A path decoded, with exactly one slash in front. -/
def decodePath (s : Text) : Text :=
  CodePoint.ofChar '/' :: (Text.percentDecode s).dropWhile (· = CodePoint.ofChar '/')

/-- The target that a text stands for. -/
def ofText (s : Text) : Except Failure Target := do
  let whole ← Reference.ofText s
  let rest ← Reference.ofText whole.relative
  let path ← (← Reference.ofText rest.path).normalPath
  let authority ← Authority.ofText whole.authority
  if !authority.isSendable then .error .badValue
  if whole.relative.any CodePoint.isSurrogate then .error .loneSurrogate
  return ⟨whole.scheme, authority, decodePath path, rest.query⟩

/-- Whether the service is reached by a connection that is kept for messages both ways. -/
def isWebSocket (t : Target) : Bool :=
  t.scheme = Text.ofString "ws" || t.scheme = Text.ofString "wss"

/-- A name or a value of a query. -/
def queryText (s : Text) : Text :=
  Text.percentDecode (s.map fun c => if c = CodePoint.ofChar '+' then CodePoint.ofChar ' ' else c)

/-- The names and values of the query; a name alone has the empty value. -/
def arguments (t : Target) : List (Text × Text) :=
  let pieces := (Text.splitAt (CodePoint.ofChar '&') t.query).filter (· ≠ [])
  pieces.map fun piece =>
    let (name, value) := Text.cut (CodePoint.ofChar '=') piece
    (queryText name, queryText (value.getD []))

/-- The first value of a name in the query. -/
def argument? (t : Target) (name : String) : Option Text :=
  t.arguments.lookup (Text.ofString name)

/-- A path with every run of slashes made one. -/
def mergeSlashes : Text → Text
  | [] => []
  | [c] => [c]
  | c :: d :: s =>
    if c = CodePoint.ofChar '/' && d = CodePoint.ofChar '/' then mergeSlashes (d :: s)
    else c :: mergeSlashes (d :: s)

end Target

end PolyCommit
