import PolyCommit.Service.Request

/-!
# Routes

The paths of the service and the method of each. A path that is not served has status 404, a method
that its path does not take 405. Where reading is allowed, so is asking for the head alone; every
path answers a question for its options. A path with runs of slashes leads on to the path with
single ones. There is a folder for assets, with nothing in it. An authority without a name for the
server, and a connection for messages both ways, are bad requests.
-/

namespace PolyCommit

/-- The operations of the service. -/
inductive Route
  | setup
  | key
  | commit
  | evaluate
  | challenge
  | witness
  | verify
  | reset
  deriving DecidableEq

/-- What a path stands for. -/
inductive Resource
  | operation (route : Route)
  | asset
  deriving DecidableEq

namespace Resource

/-- The paths of the operations. -/
def table : List (String × Route) :=
  [("/kzg/setup", .setup), ("/kzg/key", .key), ("/kzg/commit", .commit),
    ("/kzg/evaluate", .evaluate), ("/kzg/challenge", .challenge), ("/kzg/witness", .witness),
    ("/kzg/verify", .verify), ("/kzg/reset", .reset)]

/-- The folder of assets. -/
def assetFolder : Text := Text.ofString "/static/"

/-- Whether a text names an asset: it does not begin with a slash, and has no line feed after its
first code point. -/
def isAssetName : Text → Bool
  | [] => false
  | c :: s => c ≠ CodePoint.ofChar '/' && s.all fun d => d.val ≠ 0x0a

/-- Whether a path names something in the folder of assets. -/
def isAsset (path : Text) : Bool :=
  assetFolder.isPrefixOf path && isAssetName (path.drop assetFolder.length)

/-- The resource of a path. -/
def ofPath? (path : Text) : Option Resource :=
  match table.find? fun entry => Text.ofString entry.1 = path with
  | some entry => some (operation entry.2)
  | none => if isAsset path then some asset else none

/-- The methods that a resource takes. -/
def methods : Resource → List String
  | operation .key | asset => ["GET", "HEAD", "OPTIONS"]
  | _ => ["POST", "OPTIONS"]

/-- Whether a resource takes a method. -/
def allows (r : Resource) (method : Text) : Bool :=
  r.methods.any fun name => Text.ofString name = method

end Resource

/-- Where a request leads: to an operation, or to a status alone. -/
inductive Destination
  | operation (route : Route)
  | status (code : Nat)
  deriving DecidableEq

namespace Request

/-- The method in capital letters. -/
def verb (r : Request) : Text := r.method.upperAscii

/-- Where a request leads when it finds its resource. -/
def meet (r : Request) (resource : Resource) : Destination :=
  if !resource.allows r.verb then .status 405
  else if r.target.isWebSocket then .status 400
  else if r.verb = Text.ofString "OPTIONS" then .status 200
  else
    match resource with
    | .operation route => .operation route
    | .asset => .status 404

/-- Where a request leads when its path finds a resource only with single slashes. -/
def redirect (r : Request) (resource : Resource) : Destination :=
  if !resource.allows r.verb then .status 405
  else if r.target.isWebSocket then .status 400
  else .status 308

/-- Where a request leads. -/
def destination (r : Request) : Destination :=
  let path := r.target.path
  if !r.target.authority.isServed then .status 400
  else
    match Resource.ofPath? path, Resource.ofPath? (Target.mergeSlashes path) with
    | some resource, _ => r.meet resource
    | none, some resource => r.redirect resource
    | none, none => .status 404

end Request

end PolyCommit
