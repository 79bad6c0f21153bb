import FluxComposer.Http.Url
import FluxComposer.Influx.Credentials
import FluxComposer.Influx.Error
import FluxComposer.Influx.Schema
import FluxComposer.Settings.Basic
/-
Asking the database over HTTP. Every request carries the token and names
the organization of the credentials it is made with; the client itself
knows only where the database is. An answer that refuses the token is
told apart from other errors, whose message is the one the database gives
or else the body of its answer.
-/
namespace FluxComposer

/-- A problem that the database finds in a query. -/
structure Problem where
  line : Nat := 0
  column : Nat := 0
  character : Nat := 0
  message : String := ""
  deriving DecidableEq, Repr

namespace Problem

open Json.Decode (field record natBelow)

/-- A number of 32 bits. -/
def position : Json.Decoder Nat := natBelow (Nat.pow 2 32)

def decode : Json.Decoder Problem :=
  record [
    field "line" position (fun line p => { p with line }) true,
    field "column" position (fun column p => { p with column }) true,
    field "character" position
      (fun character p => { p with character }) true,
    field "message" Json.Decode.string
      (fun message p => { p with message }) true] {}

def toJson (p : Problem) : Json :=
  .object [("line", .nat p.line), ("column", .nat p.column),
    ("character", .nat p.character), ("message", .string p.message)]

end Problem

-- ====================================================== answers as JSON

namespace Influx

open Json.Decode (field record list optional)

/-- A listed bucket. Without an id its name is its id. -/
def listedBucket : Json.Decoder Bucket := fun r => do
  let (id, name) ← record (σ := Option String × String) [
    field "id" (optional Json.Decode.string)
      (fun id b => (id, b.2)) true,
    field "name" Json.Decode.string fun name b => (b.1, name)]
    (none, "") r
  return ⟨id.getD name, name⟩

/-- The listed buckets. -/
def bucketListing : Json.Decoder (List Bucket) :=
  record [field "buckets" (list listedBucket) (fun bs _ => bs) true] []

/-- The problems of a query. -/
def problemListing : Json.Decoder (List Problem) :=
  record [field "errors" (list Problem.decode) (fun ps _ => ps) true] []

/-- The message of an error. -/
def errorMessage : Json.Decoder String :=
  record [field "message" Json.Decode.string fun m _ => m] ""

-- ============================================================= client

/-- Where the database is, and how far back it is searched for names. -/
structure Client where
  baseUrl : String
  lookback : String

/-- The client for the settings. -/
def Client.ofSettings (s : InfluxSettings) : Client where
  baseUrl := Text.withoutTrailingSlashes s.url
  lookback := s.schemaLookback

namespace Client

open Http

/-- What an answer of the database means. -/
def check (r : Reply) : Except InfluxError Reply :=
  if r.isSuccess then .ok r
  else if r.status = 401 ∨ r.status = 403 then .error .unauthorized
  else .error (.api r.status
    ((r.decode? errorMessage).getD (Text.trimmed r.body)))

/-- What became of a request to the database. -/
def outcome : Exchange → Except InfluxError Reply
  | .replied r => check r
  | .refused => .error .unavailable
  | .timedOut => .error .timeout
  | .failed reason => .error (.request reason)

/-- Sends a request, if it can be made, and reads its answer. -/
def ask {α : Type} (r : Http.Request)
    (read : Reply → Except InfluxError α) : Talk (Except InfluxError α) :=
  if r.isSendable then do
    let e ← Talk.ask r
    return outcome e >>= read
  else return .error (.request "builder error")

/-- Reads the body of an answer as JSON. -/
def jsonBody {α : Type} (decode : Json.Decoder α) (r : Reply) :
    Except InfluxError α :=
  match r.decode? decode with
  | some a => .ok a
  | none => .error (.request "error decoding response body")

/-- A request for credentials to a path, with the parameters and the body
given. -/
def request (client : Client) (c : Credentials) (method path : String)
    (parameters : List (String × String)) (body : Option Json) :
    Http.Request where
  method := method
  url := client.baseUrl ++ path
  query := some (Text.encodeParameters
    (("org", c.organization) :: parameters))
  authorization := some ("Token " ++ c.apiToken)
  body := body

/-- The buckets of the organization. -/
def buckets (client : Client) (c : Credentials) :
    Talk (Except InfluxError (List Bucket)) :=
  ask (client.request c "GET" "/api/v2/buckets" [("limit", "100")] none)
    (jsonBody bucketListing)

/-- Whether the credentials are accepted. -/
def validate (client : Client) (c : Credentials) :
    Talk (Except InfluxError Unit) :=
  (fun r => r.map fun _ => ()) <$> client.buckets c

/-- The dialect in which results are asked for. -/
def dialect : Json :=
  .object [("annotations", .strings ["datatype", "group", "default"]),
    ("header", .bool true), ("delimiter", .string ",")]

/-- The result of a query. -/
def query (client : Client) (c : Credentials) (flux : String) :
    Talk (Except InfluxError (List Table)) :=
  let body := Json.object [("query", .string flux),
    ("type", .string "flux"), ("dialect", dialect)]
  ask { client.request c "POST" "/api/v2/query" [] (some body) with
      accept := "application/csv" }
    fun r => .ok (Table.decode r.body)

/-- The problems of a query, without running it. -/
def analyze (client : Client) (c : Credentials) (flux : String) :
    Talk (Except InfluxError (List Problem)) :=
  let body := Json.object [("query", .string flux),
    ("type", .string "flux")]
  ask (client.request c "POST" "/api/v2/query/analyze" [] (some body))
    (jsonBody problemListing)

/-- The measurements of a bucket. -/
def measurements (client : Client) (c : Credentials) (bucket : String) :
    Talk (Except InfluxError (List String)) := do
  let r ← client.query c (Schema.measurementsQuery bucket client.lookback)
  return r.map (Schema.distinctValues · "_measurement")

/-- The fields of a measurement. -/
def fields (client : Client) (c : Credentials)
    (bucket measurement : String) : Talk (Except InfluxError (List String)) :=
  do
  let r ← client.query c
    (Schema.fieldsQuery bucket measurement client.lookback)
  return r.map (Schema.distinctValues · "_field")

end Client
end Influx
end FluxComposer
