import PolyCommit.Error
import PolyCommit.Service.Target
import PolyCommit.Value.Document

/-!
# Requests and responses

A request has a method, a target and perhaps a body; a response a status and perhaps a JSON value. A
body counts only when its media type says JSON and its bytes are a JSON document.
-/

namespace PolyCommit

/-- A request to the service. -/
structure Request where
  method : Text
  target : Target
  contentType : Option Text
  body : List UInt8

/-- An answer of the service. -/
structure Response where
  status : Nat
  body : Option Value

namespace Request

/-- Whether a content type can be sent: it has no line ends. -/
def isOneLine (s : Text) : Bool := s.all fun c => c.val ≠ 0x0a && c.val ≠ 0x0d

/-- The request with a target, a content type and a body that are given as texts; the body is sent
in UTF-8, and the name of the server is shown before anything is sent. -/
def ofTexts (method target : Text) (contentType : Option Text) (body : Text) :
    Except Failure Request := do
  let target ← Target.ofText target
  if !contentType.all isOneLine then .error .badValue
  match body.utf8? with
  | some bytes =>
    if target.authority.isReadable then return ⟨method, target, contentType, bytes⟩
    else .error (.fault .badHostName)
  | none => .error .loneSurrogate

/-- Space and tab. -/
def isBlank (c : CodePoint) : Bool := c.val = 0x20 || c.val = 0x09

/-- The media type without parameters, in small letters. -/
def mediaType (r : Request) : Text :=
  let whole := r.contentType.getD []
  ((Text.cut (CodePoint.ofChar ';') whole).1.trim isBlank).lowerAscii

/-- Whether the media type is JSON or a format built on JSON. -/
def isJson (r : Request) : Bool :=
  r.mediaType = Text.ofString "application/json"
    || ((Text.ofString "application/").isPrefixOf r.mediaType
      && (Text.ofString "+json").isSuffixOf r.mediaType)

/-- The JSON value in the body, if there is one. -/
def json? (r : Request) : Option Value := if r.isJson then Value.ofDocument? r.body else none

/-- The fields of the JSON object in the body. -/
def fields (r : Request) : Except Failure (List (Text × Value)) :=
  match r.json? with
  | some (.object fields) => .ok fields
  | _ => .error (.malformed .bodyNotObject)

/-- A field that has to be there. -/
def require (name : String) (fields : List (Text × Value)) : Except Failure Value :=
  match Value.lookup (Text.ofString name) fields with
  | some v => .ok v
  | none => .error (.malformed (.missingField (Text.ofString name)))

end Request

end PolyCommit
