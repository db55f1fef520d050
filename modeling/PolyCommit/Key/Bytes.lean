import PolyCommit.Key.Basic
import PolyCommit.Bytes.Hex

/-!
# Keys as bytes

The two counts in four bytes each, then the points of the first group, then those of the second. The
length that the counts promise has to be the length of the data. A key with more points than four
bytes count has no encoding.
-/

namespace PolyCommit

namespace Key

/-- The width of a count. -/
def countBytes : Nat := 4

/-- The bytes of a key whose counts have room. -/
def toBytes (key : Key) : Bytes :=
  BigEndian.encode countBytes key.size₁ ++ BigEndian.encode countBytes key.size₂
    ++ key.points₁.flatMap Encoding.point₁ ++ key.points₂.flatMap Encoding.point₂

/-- Whether the counts of a key have room. -/
def isCountable (key : Key) : Bool :=
  key.size₁ < BigEndian.room countBytes && key.size₂ < BigEndian.room countBytes

/-- The bytes of a key, if its counts have room. -/
def encode (key : Key) : Except Failure Bytes :=
  if key.isCountable then .ok key.toBytes else .error .tooLarge

/-- The first `count` pieces of `size` bytes. -/
def pieces (size : Nat) : Nat → Bytes → List Bytes
  | 0, _ => []
  | count + 1, data => data.take size :: pieces size count (data.drop size)

variable {T : Type}

/-- The key that bytes spell. -/
def ofBytes (E : PairingSystem T) (data : Bytes) : Except Failure Key := do
  let header := 2 * countBytes
  if data.length < header then .error (.malformed .keyHeader)
  let n₁ := BigEndian.decode (data.take countBytes)
  let n₂ := BigEndian.decode ((data.drop countBytes).take countBytes)
  let expected := header + n₁ * point₁Bytes + n₂ * point₂Bytes
  if data.length ≠ expected then .error (.malformed (.keyLength data.length expected))
  let body := data.drop header
  let points₁ ← (pieces point₁Bytes n₁ body).mapM (Decoding.point₁ E)
  let points₂ ← (pieces point₂Bytes n₂ (body.drop (n₁ * point₁Bytes))).mapM (Decoding.point₂ E)
  ofPoints points₁ points₂

/-- The hex text of a key whose counts have room. -/
def toHex (key : Key) : Text := Hex.encode key.toBytes

/-- The hex text of a key, if its counts have room. -/
def encodeHex (key : Key) : Except Failure Text :=
  if key.isCountable then .ok key.toHex else .error .tooLarge

/-- The key that a hex text spells; a value that is no text is refused like a bad text. -/
def ofHex (E : PairingSystem T) (v : Value) : Except Failure Key :=
  match v with
  | .str s =>
    match Hex.decode? s with
    | some data => ofBytes E data
    | none => .error (.malformed .keyHex)
  | _ => .error (.malformed .keyHex)

end Key

end PolyCommit
