import PolyCommit.Error
import PolyCommit.Text.Ascii
import PolyCommit.Text.KeptBytes
import PolyCommit.Text.Numeral

/-!
# Settings

What can be set from outside, by named variables that are texts. An integer is read by the grammar
of integers and has to be one. Names and values are stored as bytes that end at a zero, so they
cannot hold one; a name ends at an equals sign and is not empty. A surrogate that keeps a byte is
stored as that byte, and what is stored is read as UTF-8.
-/

namespace PolyCommit

/-- The settings of the service. -/
structure Settings where
  storePath : Text
  secret : Text
  maxDegree : Int
  host : Text
  port : Int
  debug : Bool

namespace Settings

/-- The path that means a store in memory. -/
def memoryPath : Text := Text.ofString ":memory:"

/-- The settings when nothing is set. -/
def initial : Settings where
  storePath := Text.ofString "db.json"
  secret := Text.ofString "key"
  maxDegree := 64
  host := Text.ofString "127.0.0.1"
  port := 5000
  debug := false

/-- Whether the store is in memory. -/
def inMemory (s : Settings) : Bool := s.storePath = memoryPath

/-- The texts that switch debugging on, in any case of letters. -/
def isYes (s : Text) : Bool :=
  ["1", "true", "yes"].any fun word => s.lowerAscii = Text.ofString word

/-- A name or a value as the bytes that are stored. -/
def stored (s : Text) : Except Failure (List UInt8) :=
  s.keptUtf8?.elim (.error .loneSurrogate) .ok

/-- The value of a variable, which has to be a text. -/
def textValue : Value → Except Failure Text
  | .str s => .ok s
  | _ => .error .wrongKind

/-- A variable that can be set. -/
def entry (name : Text) (value : Value) : Except Failure (Text × Text) := do
  let nameBytes ← stored name
  let valueBytes ← stored (← textValue value)
  if (nameBytes ++ valueBytes).contains 0 || name.contains (CodePoint.ofChar '=') then
    .error .badValue
  else if name.isEmpty then .error (.fault .emptyName)
  else return (Text.ofKeptUtf8 nameBytes, Text.ofKeptUtf8 valueBytes)

/-- An integer variable; one that is not set keeps its first value. -/
def integer (initial : Int) : Option Text → Except Failure Int
  | none => .ok initial
  | some s => s.integer?.elim (.error .badValue) .ok

/-- The settings that the variables make. -/
def load (given : String → Option Text) : Except Failure Settings := do
  let maxDegree ← integer initial.maxDegree (given "KZG_MAX_DEGREE")
  let port ← integer initial.port (given "KZG_PORT")
  return {
    storePath := (given "KZG_DB_PATH").getD initial.storePath
    secret := (given "KZG_SECRET_KEY").getD initial.secret
    maxDegree := maxDegree
    host := (given "KZG_HOST").getD initial.host
    port := port
    debug := (given "KZG_DEBUG").elim initial.debug isYes }

end Settings

end PolyCommit
