import FluxComposer.Http.MediaType
import FluxComposer.Query.Encoding
import FluxComposer.Settings.Environment
import FluxComposer.Text.Percent
/-
From a request to what it asks for. A path leads to an endpoint, which
has one method; then the values in the path and the body are read. What
cannot be read is rejected by its status alone: a value in the path
comes before the body, and of the body first its type counts, then
whether it is JSON, then its shape.
-/
namespace FluxComposer

/-- A request to the service. Of several authorization headers the values
stand in order. The body is a text: one whose bytes are not UTF-8 is no
request here. -/
structure Request where
  method : String
  target : String
  authorization : List String := []
  contentType : Option String := none
  body : String := ""

/-- The dashboard that a request wants. -/
structure Publication where
  fluxQuery : String := ""
  title : String := ""
  panelTitle : Option String := none
  deriving DecidableEq, Repr

/-- What a request asks for. -/
inductive Action where
  | login (apiToken organization : String)
  | validate
  | logout
  | render (query : Query)
  | parse (text : String)
  | buckets
  | measurements (bucket : String)
  | fields (bucket measurement : String)
  | analyze (query : String)
  | run (query : String)
  | view
  | refreshBuckets
  | selectBucket (position : Nat)
  | selectMeasurement (position : Nat)
  | selectFields (positions : List Nat)
  | selectRange (start : String) (stop : Option String)
  | updateText (text : String)
  | removePart (index : Nat)
  | reset
  | publish (publication : Publication)
  | datasources
  | live
  | ready
  | health
  deriving DecidableEq, Repr

namespace Action

open Json.Decode (field record list optional natBelow)

-- ============================================================= bodies

/-- The largest body that is read, in bytes. -/
def bodyLimit : Nat := 2 * 1024 * 1024

/-- Reads the body of a request, or gives the status of its rejection.
What follows the value is not looked at. -/
def body {α : Type} (r : Request) (decode : Json.Decoder α) :
    Except Nat α :=
  if !r.contentType.any Http.isJson then .error 415
  else if r.body.utf8ByteSize > bodyLimit then .error 413
  else
    match Json.Decode.head decode r.body.toList with
    | .ok a => .ok a
    | .error .malformed => .error 400
    | .error .mismatch => .error 422

/-- A body with one text. -/
def textField (key : String) : Json.Decoder String :=
  record [field key Json.Decode.string fun s _ => s] ""

/-- A position in a listing. -/
def position : Json.Decoder Nat := natBelow (Nat.pow 2 64)

def loginBody : Json.Decoder Action := fun r => do
  let (apiToken, organization) ← record (σ := String × String) [
    field "apiToken" Json.Decode.string (fun s b => (s, b.2)) true,
    field "organization" Json.Decode.string (fun s b => (b.1, s)) true]
    ("", "") r
  return .login apiToken organization

def renderBody : Json.Decoder Action := fun r =>
  Action.render <$>
    record [field "model" (Query.decode 1) fun q _ => q] {} r

def positionBody : Json.Decoder Nat :=
  record [field "position" position fun p _ => p] 0

def positionsBody : Json.Decoder (List Nat) :=
  record [field "positions" (list position) (fun ps _ => ps) true] []

def rangeBody : Json.Decoder Action := fun r => do
  let range ← DateRange.decode r
  return .selectRange range.start range.stop

/-- The fields of a publication, of which any may be missing. -/
def publicationFields : List (Json.Decode.Field Publication) := [
  field "fluxQuery" Json.Decode.string
    (fun fluxQuery p => { p with fluxQuery }) true,
  field "title" Json.Decode.string
    (fun title p => { p with title }) true,
  field "panelTitle" (optional Json.Decode.string)
    (fun panelTitle p => { p with panelTitle }) true]

def publicationBody : Json.Decoder Publication :=
  record publicationFields {}

-- ============================================================== paths

/-- A value in a path. -/
def pathText (segment : String) : Except Nat String :=
  match Text.percentDecode? segment with
  | some s => .ok s
  | none => .error 400

/-- A position in a path. -/
def pathNumber (segment : String) : Except Nat Nat := do
  match Settings.unsignedBelow? (Nat.pow 2 64) (← pathText segment) with
  | some n => .ok n
  | none => .error 400

/-- An endpoint: its method, and how a request to it is read. -/
structure Endpoint where
  method : String
  read : Request → Except Nat Action

/-- An endpoint without a body. -/
def bare (method : String) (action : Action) : Endpoint :=
  ⟨method, fun _ => .ok action⟩

/-- An endpoint whose body is read. -/
def withBody {α : Type} (method : String) (decode : Json.Decoder α)
    (action : α → Action) : Endpoint :=
  ⟨method, fun r => action <$> body r decode⟩

/-- The endpoint behind the common part of the paths. -/
def apiEndpoint? : (segments : List String) → Option Endpoint
  | ["auth", "login"] => some (withBody "POST" loginBody id)
  | ["auth", "validate"] => some (bare "GET" .validate)
  | ["auth", "logout"] => some (bare "POST" .logout)
  | ["flux", "render"] => some (withBody "POST" renderBody id)
  | ["flux", "parse"] => some (withBody "POST" (textField "text") .parse)
  | ["buckets"] => some (bare "GET" .buckets)
  | ["buckets", bucket, "measurements"] =>
    some ⟨"GET", fun _ => .measurements <$> pathText bucket⟩
  | ["buckets", bucket, "measurements", measurement, "fields"] =>
    some ⟨"GET", fun _ => do
      return .fields (← pathText bucket) (← pathText measurement)⟩
  | ["query", "analyze"] =>
    some (withBody "POST" (textField "query") .analyze)
  | ["query", "run"] => some (withBody "POST" (textField "query") .run)
  | ["builder"] => some (bare "GET" .view)
  | ["builder", "buckets", "refresh"] =>
    some (bare "POST" .refreshBuckets)
  | ["builder", "bucket"] =>
    some (withBody "POST" positionBody .selectBucket)
  | ["builder", "measurement"] =>
    some (withBody "POST" positionBody .selectMeasurement)
  | ["builder", "fields"] =>
    some (withBody "POST" positionsBody .selectFields)
  | ["builder", "range"] => some (withBody "POST" rangeBody id)
  | ["builder", "text"] =>
    some (withBody "PUT" (textField "text") .updateText)
  | ["builder", "parts", index] =>
    if index.isEmpty then none
    else some ⟨"DELETE", fun _ => .removePart <$> pathNumber index⟩
  | ["builder", "reset"] => some (bare "POST" .reset)
  | ["grafana", "dashboard"] =>
    some (withBody "POST" publicationBody .publish)
  | ["grafana", "datasources"] => some (bare "GET" .datasources)
  | _ => none

/-- The segments of a path. -/
def segments (path : List Char) : List String :=
  match path with
  | '/' :: rest => (rest.splitOn '/').map String.ofList
  | _ => []

/-- The endpoint that a path leads to. -/
def endpoint? (path : List Char) : Option Endpoint :=
  match segments path with
  | "api" :: "v1" :: rest => apiEndpoint? rest
  | ["health"] => some (bare "GET" .health)
  | ["health", "live"] => some (bare "GET" .live)
  | ["health", "ready"] => some (bare "GET" .ready)
  | _ => none

end Action

/-- What stands behind the scheme of a target, if it is a full
address. -/
def afterScheme? (target : List Char) : Option (List Char) :=
  match target.dropWhile (· != ':') with
  | ':' :: '/' :: '/' :: rest => some rest
  | _ => none

/-- The path of a request, without the parameters behind it. The target
is a path or a full address; of an address without a path it is the path
of the root. A target that is neither has no path. -/
def Request.path (r : Request) : List Char :=
  let isPathChar (c : Char) : Bool := c != '?' && c != '#'
  let target := r.target.toList
  match target with
  | '/' :: _ => target.takeWhile isPathChar
  | _ =>
    match afterScheme? (target.takeWhile isPathChar) with
    | some rest =>
      match rest.dropWhile (· != '/') with
      | [] => ['/']
      | path => path
    | none => []

/-- What a request asks for, or the status of its rejection. An endpoint
that can be read can also be asked for its head. -/
def Request.action (r : Request) : Except Nat Action :=
  match Action.endpoint? r.path with
  | none => .error 404
  | some endpoint =>
    if r.method = endpoint.method
        ∨ (r.method = "HEAD" ∧ endpoint.method = "GET") then
      endpoint.read r
    else .error 405

end FluxComposer
