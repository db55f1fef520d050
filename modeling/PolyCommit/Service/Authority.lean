import PolyCommit.Error
import PolyCommit.Service.HostAddress
import PolyCommit.Service.HostName
import PolyCommit.Text.PercentCode

/-!
# Authorities

The part of a reference after two slashes: perhaps a user and a password before an at sign, a host,
and perhaps a port after a colon. A host in square brackets is an address. Case does not matter in a
host, and an empty port is none.
-/

namespace PolyCommit

/-- Who asks, if that is said, the host in ASCII, and the port, if there is one. -/
structure Authority where
  user : Option Text
  host : Text
  port : Option Nat

namespace Authority

/-- Code points that a compatibility mapping turns into a text with a slash, a question mark, a
number sign, an at sign or a colon. -/
def lookalikes : List Nat :=
  [0x2047, 0x2048, 0x2049, 0x2100, 0x2101, 0x2105, 0x2106, 0x2a74, 0xfe13, 0xfe16, 0xfe55, 0xfe56,
    0xfe5f, 0xfe6b, 0xff03, 0xff0f, 0xff1a, 0xff1f, 0xff20]

/-- What stands before the last at sign, if there is one, and what stands after it. -/
def cutUser (s : Text) : Option Text × Text :=
  match Text.cut (CodePoint.ofChar '@') s.reverse with
  | (host, some user) => (some user.reverse, host.reverse)
  | (host, none) => (none, host.reverse)

/-- Whether a host and its port fit square brackets: an address stands in them, nothing before them,
and at most a port behind them. Without brackets, what stands for the host must be an address. -/
def isBracketed (s : Text) : Bool :=
  match Text.cut (CodePoint.ofChar '[') s with
  | (front, some inside) =>
    let (address, rest) := Text.cut (CodePoint.ofChar ']') inside
    front.isEmpty && HostAddress.isValid address
      && (rest.getD []).head?.all (· = CodePoint.ofChar ':')
  | (_, none) => HostAddress.isValid (Text.cut (CodePoint.ofChar ':') s).1

/-- Whether the square brackets of a text fit: there are none, or there are both and the host fits
them. -/
def bracketsFit (s : Text) : Bool :=
  match s.contains (CodePoint.ofChar '['), s.contains (CodePoint.ofChar ']') with
  | false, false => true
  | true, true => isBracketed (cutUser s).2
  | _, _ => false

/-- Whether a text may stand for an authority at all. -/
def isPlausible (s : Text) : Bool :=
  bracketsFit s && s.all fun c => !lookalikes.contains c.val

/-- The text of the host and the text of the port. -/
def cutPort (s : Text) : Text × Text :=
  match Text.cut (CodePoint.ofChar '[') s with
  | (_, some inside) =>
    let (host, rest) := Text.cut (CodePoint.ofChar ']') inside
    (host, (Text.cut (CodePoint.ofChar ':') (rest.getD [])).2.getD [])
  | (_, none) =>
    let (host, port) := Text.cut (CodePoint.ofChar ':') s
    (host, port.getD [])

/-- The number of a port: ASCII digits for a number below `65536`. -/
def portNumber (s : Text) : Except Failure (Option Nat) :=
  if s.isEmpty then .ok none
  else if s.all CodePoint.isAsciiDigit then
    match Text.Reading.ofDigits s.digitValues with
    | .number n => if n < 65536 then .ok (some n) else .error .badValue
    | _ => .error .badValue
  else .error .badValue

/-- A host with small letters; the zone of an address, after a percent sign, keeps its case. -/
def lowerHost (s : Text) : Text :=
  let inName : Text := s.takeWhile (· ≠ CodePoint.ofChar '%')
  inName.lowerAscii ++ s.drop inName.length

/-- The marks that a user may hold as they are. -/
def userMarks : Text := Text.ofString "%!$&'()*+,;=:"

/-- A user with percent codes. -/
def encodeUser (s : Text) : Except Failure Text :=
  (Text.percentEncode? userMarks s).elim (.error .loneSurrogate) .ok

/-- The authority that a plausible text stands for. -/
def ofText (s : Text) : Except Failure Authority := do
  let (user, rest) := cutUser s
  let (name, portName) := cutPort rest
  let some host := HostName.ascii? (lowerHost name) | .error (.fault .badHostName)
  let port ← portNumber portName
  return ⟨← user.mapM encodeUser, host, port⟩

/-- The host as it is written in an authority. -/
def hostText (a : Authority) : Text :=
  if a.host.contains (CodePoint.ofChar ':') then
    CodePoint.ofChar '[' :: a.host ++ [CodePoint.ofChar ']']
  else a.host

/-- The normal form of an authority. -/
def text (a : Authority) : Text :=
  a.user.elim [] (· ++ [CodePoint.ofChar '@']) ++ a.hostText
    ++ a.port.elim [] (CodePoint.ofChar ':' :: Text.ofNat ·)

/-- Whether an authority can be sent to a server: the brackets of its normal form fit. -/
def isSendable (a : Authority) : Bool := bracketsFit a.text

/-- Whether a code point may stand in the name of a server. -/
def isNamePoint (c : CodePoint) : Bool :=
  c.isAsciiLetter || c.isAsciiDigit || (Text.ofString ".-").contains c

/-- The name under which a server sees itself addressed. It sees none when a user is in front, or
when the host is no plain name. -/
def serverName (a : Authority) : Text :=
  if a.user.isNone && a.host.all isNamePoint then a.host else []

/-- Whether the name of the server can be shown. -/
def isReadable (a : Authority) : Bool := HostName.isReadable a.serverName

/-- Whether the name of the server is one that can be served. -/
def isServed (a : Authority) : Bool := (HostName.ascii? a.serverName).isSome

end Authority

end PolyCommit
