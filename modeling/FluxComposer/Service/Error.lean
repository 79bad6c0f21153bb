import FluxComposer.Grafana.Error
import FluxComposer.Influx.Error
import FluxComposer.Json.Value
import FluxComposer.Session.Store
/-
What the service answers when it cannot do what it is asked. Each cause
has a status, a code for machines and a wording; the answer carries code
and wording together with the id of the request.
-/
namespace FluxComposer

/-- Why a request is not carried out. -/
inductive ApiError where
  | validation (reason : String)
  | notFound (what : String)
  | unauthorized (reason : String)
  | session (error : SessionError)
  | influx (error : InfluxError)
  | grafana (error : GrafanaError)
  | internal (reason : String)
  | io (reason : String)
  deriving DecidableEq, Repr

/-- An answer: its status, and its body if that is JSON. -/
structure Response where
  status : Nat
  body : Option Json := none
  deriving Inhabited

namespace ApiError

/-- The wording of an error. -/
def message : ApiError → String
  | .validation reason => "Validation error: " ++ reason
  | .notFound what => "Not found: " ++ what
  | .unauthorized reason => "Unauthorized: " ++ reason
  | .session e => e.message
  | .influx e => "InfluxDB error: " ++ e.message
  | .grafana e => "Grafana error: " ++ e.message
  | .internal reason => "Internal error: " ++ reason
  | .io reason => "IO error: " ++ reason

/-- The status and code of an error of the database. What it says about a
query is the fault of the query, everything else is not. -/
def influxCode : InfluxError → Nat × String
  | .unauthorized => (401, "INFLUX_UNAUTHORIZED")
  | .unavailable => (503, "INFLUX_UNAVAILABLE")
  | .timeout => (504, "INFLUX_TIMEOUT")
  | .api status _ =>
    if 400 ≤ status ∧ status < 500 then (400, "QUERY_ERROR")
    else (502, "INFLUX_ERROR")
  | .request _ | .decode _ => (502, "INFLUX_ERROR")

/-- The status and code of an error of the dashboard server. -/
def grafanaCode : GrafanaError → Nat × String
  | .notConfigured => (503, "GRAFANA_NOT_CONFIGURED")
  | .unavailable => (503, "GRAFANA_UNAVAILABLE")
  | .timeout => (504, "GRAFANA_TIMEOUT")
  | .request _ | .api .. | .unexpected _ => (502, "GRAFANA_ERROR")

/-- The status and code of an error. -/
def statusAndCode : ApiError → Nat × String
  | .validation _ => (400, "VALIDATION_ERROR")
  | .notFound _ => (404, "NOT_FOUND")
  | .unauthorized _ => (401, "UNAUTHORIZED")
  | .session .expired => (401, "SESSION_EXPIRED")
  | .session .unknown => (401, "INVALID_TOKEN")
  | .influx e => influxCode e
  | .grafana e => grafanaCode e
  | .internal _ => (500, "INTERNAL_ERROR")
  | .io _ => (500, "IO_ERROR")

/-- The answer that reports an error. -/
def response (requestId : String) (e : ApiError) : Response :=
  let (status, code) := e.statusAndCode
  { status
    body := some (.object [
      ("error", .object [("code", .string code),
        ("message", .string e.message)]),
      ("request_id", .string requestId)]) }

end ApiError
end FluxComposer
