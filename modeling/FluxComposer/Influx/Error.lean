/-
What can go wrong with a request to the database.
-/
namespace FluxComposer

/-- Why the database gave no answer that can be used. -/
inductive InfluxError where
  /-- No connection. -/
  | unavailable
  /-- No answer in time. -/
  | timeout
  /-- The token is refused. -/
  | unauthorized
  /-- The request could not be made, or its answer not be read. -/
  | request (reason : String)
  /-- The database answered with an error. -/
  | api (status : Nat) (message : String)
  /-- The result is no annotated table. -/
  | decode (reason : String)
  deriving DecidableEq, Repr

/-- The wording of an error. -/
def InfluxError.message : InfluxError → String
  | .unavailable => "InfluxDB unavailable"
  | .timeout => "Request timeout"
  | .unauthorized => "Invalid InfluxDB credentials"
  | .request reason => "Request failed: " ++ reason
  | .api status message =>
    "API error " ++ toString status ++ ": " ++ message
  | .decode reason => "Malformed query response: " ++ reason

end FluxComposer
