/-
What can go wrong with a request to the dashboard server.
-/
namespace FluxComposer

/-- Why the dashboard server gave no answer that can be used. -/
inductive GrafanaError where
  /-- There is no server to ask. -/
  | notConfigured
  /-- No connection. -/
  | unavailable
  /-- No answer in time. -/
  | timeout
  /-- The request could not be made, or its answer not be read. -/
  | request (reason : String)
  /-- The server answered with an error. -/
  | api (status : Nat) (message : String)
  /-- The answer lacks what was asked for. -/
  | unexpected (reason : String)
  deriving DecidableEq, Repr

/-- The wording of an error. -/
def GrafanaError.message : GrafanaError → String
  | .notConfigured => "Grafana is not configured"
  | .unavailable => "Grafana unavailable"
  | .timeout => "Request timeout"
  | .request reason => "Request failed: " ++ reason
  | .api status message =>
    "API error " ++ toString status ++ ": " ++ message
  | .unexpected reason => "Unexpected Grafana response: " ++ reason

/-- The status that the server answered with, if it is one. -/
def GrafanaError.status? : GrafanaError → Option Nat
  | .api status _ =>
    if 100 ≤ status ∧ status ≤ 999 then some status else none
  | _ => none

end FluxComposer
