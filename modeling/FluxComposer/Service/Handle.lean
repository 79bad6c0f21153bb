import FluxComposer.Builder.View
import FluxComposer.Grafana.Client
import FluxComposer.Service.Flow
import FluxComposer.Service.Request
/-
What the service does for each request. A request to the database is made
only for a session, with its credentials. A selection changes the query
first and then asks for the listing that depends on it, during which the
session is free; the listing is taken over with the revision that the
selection led to, and where it cannot be had the selection stays. Every
request to a builder answers with its view.
-/
namespace FluxComposer

/-- What the service was started with. -/
structure Service where
  influxUrl : String
  lookback : String
  grafana : Option Grafana.Client := none
  publishing : GrafanaSettings := {}
  version : String := "0.1.0"
  startedAt : Instant

namespace Service

/-- The service for the settings, over a database with the given
address. The dashboard server is used if the settings suffice. -/
def ofSettings (s : Settings) (influxUrl lookback : String)
    (startedAt : Instant) : Service where
  influxUrl := influxUrl
  lookback := lookback
  grafana := Grafana.Client.ofSettings? s.grafana
  publishing := s.grafana
  startedAt := startedAt

-- ===================================================== authentication

/-- The characters of a header value that can be read as text. -/
def isHeaderText (s : String) : Bool :=
  s.toList.all fun c => c == '\t' || (0x20 ≤ c.toNat && c.toNat < 0x7F)

/-- The token in the first authorization header. -/
def bearerToken? (authorization : List String) : Option String := do
  let value ← authorization.head?
  if !isHeaderText value then none
  let token ← Text.after "Bearer ".toList value.toList
  match Text.trim token with
  | [] => none
  | cs => return String.ofList cs

/-- The token of a request, which must have one. -/
def bearer (authorization : List String) : Except ApiError String :=
  match bearerToken? authorization with
  | some token => .ok token
  | none => .error (.unauthorized "Authentication required")

/-- The token of a request and the credentials of its session. -/
def authenticate (authorization : List String) :
    Handler (String × Credentials) := do
  let token ← Handler.require (bearer authorization)
  let credentials ← Handler.within (.credentials token)
  return (token, credentials)

/-- The answer with a body. -/
def ok (body : Json) : Response := { status := 200, body := some body }

-- =========================================================== sessions

/-- Opens a session for credentials that the database accepts. -/
def login (apiToken organization : String) : Handler Response := do
  let apiToken := Text.trimmed apiToken
  let organization := Text.trimmed organization
  if apiToken.isEmpty || organization.isEmpty then
    throw (.validation "apiToken and organization are required")
  let credentials : Credentials := ⟨apiToken, organization⟩
  match ← Handler.attempt (.buckets credentials) with
  | .ok _ => pure ()
  | .error .unauthorized | .error (.api 404 _) =>
    throw (.unauthorized ("Failed to validate InfluxDB credentials. "
      ++ "Please check your token and organization."))
  | .error e => throw (.influx e)
  match ← Handler.session (.create credentials) with
  | none => Handler.crash
  | some issued =>
    return ok (.object [("success", .bool true),
      ("token", .string issued.token),
      ("message", .string "Authentication successful"),
      ("expiresAt", .string issued.expiresAt.text)])

/-- Says for whom a session was opened. -/
def validate (authorization : List String) : Handler Response := do
  let (_, credentials) ← authenticate authorization
  return ok (.object [("valid", .bool true),
    ("message", .string "Token is valid"),
    ("organization", .string credentials.organization)])

/-- Closes a session, if there is one. -/
def logout (authorization : List String) : Handler Response := do
  let token ← Handler.require (bearer authorization)
  let _ ← Handler.session (.remove token)
  return { status := 204 }

-- =========================================================== database

/-- The call that lists the measurements of a bucket. -/
def measurementsCall (svc : Service) (c : Credentials) (bucket : String) :
    Remote (Except InfluxError (List Table)) :=
  .query c (Schema.measurementsQuery bucket svc.lookback)

/-- The call that lists the fields of a measurement. -/
def fieldsCall (svc : Service) (c : Credentials)
    (bucket measurement : String) :
    Remote (Except InfluxError (List Table)) :=
  .query c (Schema.fieldsQuery bucket measurement svc.lookback)

/-- Lists the buckets. -/
def listBuckets (authorization : List String) : Handler Response := do
  let (_, c) ← authenticate authorization
  let buckets ← Handler.database (.buckets c)
  return ok (.object [("buckets", .array (buckets.map Bucket.toJson))])

/-- Lists the measurements of a bucket. -/
def listMeasurements (svc : Service) (authorization : List String)
    (bucket : String) : Handler Response := do
  let (_, c) ← authenticate authorization
  let tables ← Handler.database (svc.measurementsCall c bucket)
  let names := Schema.distinctValues tables "_measurement"
  return ok (.object [("bucket", .string bucket),
    ("measurements", .strings names)])

/-- Lists the fields of a measurement. -/
def listFields (svc : Service) (authorization : List String)
    (bucket measurement : String) : Handler Response := do
  let (_, c) ← authenticate authorization
  let tables ← Handler.database (svc.fieldsCall c bucket measurement)
  let names := Schema.distinctValues tables "_field"
  return ok (.object [("bucket", .string bucket),
    ("measurement", .string measurement), ("fields", .strings names)])

/-- The text of a query, which must not be blank. -/
def requireQuery (query : String) : Except ApiError String :=
  let query := Text.trimmed query
  if query.isEmpty then .error (.validation "query cannot be empty")
  else .ok query

/-- Looks for problems in a query. -/
def analyze (authorization : List String) (query : String) :
    Handler Response := do
  let (_, c) ← authenticate authorization
  let query ← Handler.require (requireQuery query)
  let problems ← Handler.database (.analyze c query)
  return ok (.object [("errors", .array (problems.map Problem.toJson))])

/-- Runs a query. -/
def run (authorization : List String) (query : String) :
    Handler Response := do
  let (_, c) ← authenticate authorization
  let query ← Handler.require (requireQuery query)
  let tables ← Handler.database (.query c query)
  return ok (.object [("tables", .array (tables.map Table.toJson))])

-- ============================================================ builder

/-- Answers with the view of a builder. -/
def view (token : String) : Handler Response := do
  let builder ← Handler.within (.view token)
  return ok builder.view

/-- Edits the builder of a session: the outcome and the builder after
it. -/
def edit (token : String) (e : Builder.Edit) :
    Handler (Builder.Outcome × Builder) :=
  Handler.within (.edit token e)

/-- Edits a builder by an edit that is never refused. -/
def editAndView (authorization : List String) (e : Builder.Edit) :
    Handler Response := do
  let token ← Handler.require (bearer authorization)
  let _ ← edit token e
  view token

/-- Shows a builder. -/
def showBuilder (authorization : List String) : Handler Response := do
  view (← Handler.require (bearer authorization))

/-- Offers the buckets that the database lists now. -/
def refreshBuckets (authorization : List String) : Handler Response := do
  let (token, c) ← authenticate authorization
  let buckets ← Handler.database (.buckets c)
  let _ ← edit token (.setBuckets buckets)
  view token

/-- Selects a bucket and lists its measurements. -/
def selectBucket (svc : Service) (authorization : List String)
    (position : Nat) : Handler Response := do
  let (token, c) ← authenticate authorization
  match ← edit token (.selectBucket position) with
  | (.selected bucket, builder) =>
    match ← Handler.attempt (svc.measurementsCall c bucket.name) with
    | .ok tables =>
      let names := Schema.distinctValues tables "_measurement"
      let _ ← edit token (.applyMeasurements builder.revision names)
      view token
    | .error _ => view token
  | _ =>
    throw (.validation ("no bucket listed at position "
      ++ toString position))

/-- Selects a measurement and lists its fields. -/
def selectMeasurement (svc : Service) (authorization : List String)
    (position : Nat) : Handler Response := do
  let (token, c) ← authenticate authorization
  match ← edit token (.selectMeasurement position) with
  | (.lookup lookup, builder) =>
    let call := svc.fieldsCall c lookup.bucket lookup.measurement
    match ← Handler.attempt call with
    | .ok tables =>
      let names := Schema.distinctValues tables "_field"
      let _ ← edit token (.applyFields builder.revision names)
      view token
    | .error _ => view token
  | _ =>
    throw (.validation ("no measurement listed at position "
      ++ toString position ++ " or no bucket selected"))

/-- Selects fields. -/
def selectFields (authorization : List String) (positions : List Nat) :
    Handler Response := do
  let token ← Handler.require (bearer authorization)
  match ← edit token (.selectFields positions) with
  | (.refused, _) =>
    throw (.validation "none of the given positions are listed fields")
  | _ => view token

/-- Sets the time range. A blank end is none. -/
def selectRange (authorization : List String) (start : String)
    (stop : Option String) : Handler Response := do
  let token ← Handler.require (bearer authorization)
  let start := Text.trimmed start
  if start.isEmpty then throw (.validation "start cannot be empty")
  let stop := (stop.map Text.trimmed).filter (!·.isEmpty)
  let _ ← edit token (.selectDateRange start stop)
  view token

/-- Takes a part out. -/
def removePart (authorization : List String) (index : Nat) :
    Handler Response := do
  let token ← Handler.require (bearer authorization)
  match ← edit token (.removePart index) with
  | (.refused, _) => throw (.notFound ("part " ++ toString index))
  | _ => view token

-- ========================================================= dashboards

/-- The client of the dashboard server, which must be configured. -/
def grafanaClient (svc : Service) : Except ApiError Grafana.Client :=
  match svc.grafana with
  | some client => .ok client
  | none => .error (.grafana .notConfigured)

/-- The datasource that dashboards use, with the credentials of a
session. -/
def datasourceParams (svc : Service) (c : Credentials) :
    Grafana.DatasourceParams where
  name := svc.publishing.datasourceName
  influxUrl := svc.publishing.datasourceInfluxUrl
  organization := c.organization
  defaultBucket := some svc.publishing.defaultBucket
  token := c.apiToken

/-- Publishes a query as a dashboard. -/
def publish (svc : Service) (authorization : List String)
    (p : Publication) : Handler Response := do
  let client ← Handler.require svc.grafanaClient
  if Text.isBlankText p.fluxQuery then
    throw (.validation "Flux query is required")
  if Text.isBlankText p.title then
    throw (.validation "Dashboard title is required")
  let (_, c) ← authenticate authorization
  let datasource ← Handler.publish
    (client.ensureDatasource (svc.datasourceParams c))
  let created ← Handler.publish (client.createDashboard {
    title := p.title
    fluxQuery := p.fluxQuery
    datasourceUid := datasource.uid
    panelTitle := p.panelTitle.or (some "Flux Query Result") })
  return ok (.object [("success", .bool true),
    ("dashboard", .object [("uid", .string created.uid),
      ("url", .string created.url),
      ("absoluteUrl", .string (client.absoluteUrl created.url))]),
    ("message", .string "Dashboard created successfully")])

/-- Lists the datasources of the dashboard server. -/
def listDatasources (svc : Service) (authorization : List String) :
    Handler Response := do
  let client ← Handler.require svc.grafanaClient
  let _ ← authenticate authorization
  let datasources ← Handler.publish client.datasources
  return ok (.object [
    ("message", .string "Datasources retrieved successfully"),
    ("datasources", .array (datasources.map Grafana.Datasource.toJson))])

-- ============================================================= health

/-- Drops the sessions that are over and reports on the service. -/
def health (svc : Service) : Handler Response := do
  let _ ← Handler.session .purge
  let now ← Handler.now
  let sessions ← Handler.session .size
  return ok (.object [("status", .string "healthy"),
    ("uptime_seconds", .nat (now.secondsSince svc.startedAt)),
    ("timestamp", .string now.text), ("version", .string svc.version),
    ("sessions", .nat sessions),
    ("grafana", .bool svc.grafana.isSome)])

-- ============================================================ requests

/-- Carries out what a request asks for. -/
def handle (svc : Service) (auth : List String) :
    Action → Handler Response
  | .login apiToken organization => login apiToken organization
  | .validate => validate auth
  | .logout => logout auth
  | .render query => return ok (.object [("text", .string query.text)])
  | .parse text =>
    let query := Query.parse text
    return ok (.object [("model", query.toJson),
      ("complex", .bool query.isRaw)])
  | .buckets => listBuckets auth
  | .measurements bucket => svc.listMeasurements auth bucket
  | .fields bucket measurement => svc.listFields auth bucket measurement
  | .analyze query => analyze auth query
  | .run query => run auth query
  | .view => showBuilder auth
  | .refreshBuckets => refreshBuckets auth
  | .selectBucket position => svc.selectBucket auth position
  | .selectMeasurement position => svc.selectMeasurement auth position
  | .selectFields positions => selectFields auth positions
  | .selectRange start stop => selectRange auth start stop
  | .updateText text => editAndView auth (.updateText text)
  | .removePart index => removePart auth index
  | .reset => editAndView auth .reset
  | .publish publication => svc.publish auth publication
  | .datasources => svc.listDatasources auth
  | .live => return { status := 200 }
  | .ready =>
    return { status := if svc.influxUrl.isEmpty then 503 else 200 }
  | .health => svc.health

/-- The steps of a request up to its answer. Options are granted to
anyone, a request that cannot be read gets a status alone, and an answer
to a request for a head has no body. -/
def respond (svc : Service) (requestId : String) (r : Request) :
    Flow Response :=
  if r.method = "OPTIONS" then return { status := 200 }
  else
    match r.action with
    | .error status => return { status }
    | .ok action => do
      let response :=
        match ← (svc.handle r.authorization action).run with
        | .ok response => response
        | .error e => e.response requestId
      if r.method = "HEAD" then return { response with body := none }
      else return response

end Service
end FluxComposer
