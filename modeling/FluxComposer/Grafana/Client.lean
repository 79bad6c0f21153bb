import FluxComposer.Grafana.Dashboard
import FluxComposer.Grafana.Error
import FluxComposer.Http.Url
import FluxComposer.Settings.Basic
import FluxComposer.Text.Base64
/-
Publishing at the dashboard server. A dashboard needs a datasource that
speaks to the database; it is looked up by name and created where there
is none. The server is used with an API token, or else with a user and a
password.
-/
namespace FluxComposer.Grafana

open Http Json.Decode

/-- A datasource of the server. -/
structure Datasource where
  id : Int
  uid : String
  name : String
  kind : String := ""
  deriving DecidableEq, Repr

namespace Datasource

/-- The fields of a datasource, of which only the type may be missing. -/
def fields : List (Json.Decode.Field Datasource) := [
  field "id" int64 fun id d => { d with id },
  field "uid" string fun uid d => { d with uid },
  field "name" string fun name d => { d with name },
  field "type" string (fun kind d => { d with kind }) true]

def decode : Json.Decoder Datasource := record fields ⟨0, "", "", ""⟩

def toJson (d : Datasource) : Json :=
  .object [("id", .int d.id), ("uid", .string d.uid),
    ("name", .string d.name), ("type", .string d.kind)]

end Datasource

/-- What a datasource for the database is created with. -/
structure DatasourceParams where
  name : String
  influxUrl : String
  organization : String
  defaultBucket : Option String
  token : String

/-- The body of the request that creates a datasource. -/
def DatasourceParams.payload (p : DatasourceParams) : Json :=
  .object [("name", .string p.name), ("type", .string "influxdb"),
    ("access", .string "proxy"), ("url", .string p.influxUrl),
    ("basicAuth", .bool false),
    ("jsonData", .object [("version", .string "Flux"),
      ("organization", .string p.organization),
      ("defaultBucket", .stringOrNull p.defaultBucket),
      ("httpMode", .string "POST")]),
    ("secureJsonData", .object [("token", .string p.token)])]

/-- A dashboard that was created. -/
structure Created where
  uid : String
  url : String
  deriving DecidableEq, Repr

namespace Created

def fields : List (Json.Decode.Field Created) := [
  field "uid" string fun uid c => { c with uid },
  field "url" string fun url c => { c with url }]

def decode : Json.Decoder Created := record fields ⟨"", ""⟩

end Created

-- ============================================================= client

/-- How the server is used. -/
structure Client where
  baseUrl : String
  publicUrl : String
  authorization : String

/-- The authorization for the settings: the token, or the user. -/
def authorization? (s : GrafanaSettings) : Option String :=
  match s.apiToken.filter (!Text.isBlankText ·), s.username, s.password with
  | some token, _, _ => some ("Bearer " ++ token)
  | none, some user, some password =>
    some ("Basic " ++ Text.base64 (user ++ ":" ++ password))
  | none, _, _ => none

/-- The client for the settings, if they name a server and a way in. -/
def Client.ofSettings? (s : GrafanaSettings) : Option Client := do
  let url ← s.url
  let authorization ← authorization? s
  return {
    baseUrl := Text.withoutTrailingSlashes url
    publicUrl := Text.withoutTrailingSlashes s.publicUrl
    authorization }

namespace Client

/-- The address of a page for the browser. -/
def absoluteUrl (client : Client) (relative : String) : String :=
  match relative.toList with
  | '/' :: _ => client.publicUrl ++ relative
  | _ => client.publicUrl ++ "/" ++ relative

/-- What became of a request to the server. -/
def outcome : Exchange → Except GrafanaError Reply
  | .replied r =>
    if r.isSuccess then .ok r else .error (.api r.status r.body)
  | .refused => .error .unavailable
  | .timedOut => .error .timeout
  | .failed reason => .error (.request reason)

/-- A request to a path of the server. -/
def request (client : Client) (method path : String)
    (body : Option Json := none) : Http.Request where
  method := method
  url := client.baseUrl ++ path
  authorization := some client.authorization
  body := body

/-- Sends a request, if it can be made. -/
def ask (r : Http.Request) : Talk (Except GrafanaError Reply) :=
  if r.isSendable then
    outcome <$> Talk.ask r
  else return .error (.request "builder error")

/-- Reads the body of an answer, with an error of its own. -/
def jsonBody {α : Type} (decode : Json.Decoder α) (error : GrafanaError)
    (r : Reply) : Except GrafanaError α :=
  match r.decode? decode with
  | some a => .ok a
  | none => .error error

/-- The error of an answer that is not the expected JSON. -/
def unreadable : GrafanaError := .request "error decoding response body"

/-- The datasource with a name, if there is one. -/
def datasourceByName (client : Client) (name : String) :
    Talk (Except GrafanaError (Option Datasource)) := do
  let path := "/api/datasources/name/" ++ Text.encodeSegment name
  match ← ask (client.request "GET" path) with
  | .ok r => return some <$> jsonBody Datasource.decode unreadable r
  | .error (.api 404 _) => return .ok none
  | .error e => return .error e

/-- All datasources. -/
def datasources (client : Client) :
    Talk (Except GrafanaError (List Datasource)) := do
  let r ← ask (client.request "GET" "/api/datasources")
  return r >>= jsonBody (list Datasource.decode) unreadable

/-- The datasource in the answer to its creation: it stands under a key
of its own, or is the whole answer. The answer is held as a value before
it is looked at, so of a key that it repeats the last one counts. -/
def createdDatasource (r : Reply) : Except GrafanaError Datasource := do
  let some answer := Json.parse? r.body | .error unreadable
  let value := answer.sorted
  let value := (value.get? "datasource").getD value
  match Datasource.decode (.ofJson value) with
  | .ok d => return d
  | .error _ => .error (.unexpected "datasource: not a datasource")

/-- Creates a datasource for the database. -/
def createDatasource (client : Client) (p : DatasourceParams) :
    Talk (Except GrafanaError Datasource) := do
  let r ← ask (client.request "POST" "/api/datasources" (some p.payload))
  return r >>= createdDatasource

/-- The datasource with the name, which is created where there is
none. -/
def ensureDatasource (client : Client) (p : DatasourceParams) :
    Talk (Except GrafanaError Datasource) := do
  match ← client.datasourceByName p.name with
  | .ok (some d) => return .ok d
  | .ok none => client.createDatasource p
  | .error e => return .error e

/-- Creates a dashboard. -/
def createDashboard (client : Client) (d : Dashboard) :
    Talk (Except GrafanaError Created) := do
  let r ← ask (client.request "POST" "/api/dashboards/db" (some d.payload))
  return r >>= jsonBody Created.decode
    (.unexpected "dashboard: not a dashboard")

end Client
end FluxComposer.Grafana
