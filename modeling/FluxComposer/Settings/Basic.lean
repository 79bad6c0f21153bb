import FluxComposer.Text.Blank
/-
The settings of the service, in four groups, each of which has a default.
Durations and the port are words of fixed width, so a setting can hold
any value that its notation allows.
-/
namespace FluxComposer

/-- Where the service listens and how long it waits. -/
structure ApiSettings where
  host : String := "0.0.0.0"
  port : UInt16 := 3001
  requestTimeoutSecs : UInt64 := 30
  sessionTtlSecs : UInt64 := 3600
  deriving DecidableEq, Repr

/-- The database. Credentials are not among the settings: every session
brings its own. -/
structure InfluxSettings where
  url : String := "http://localhost:8086"
  requestTimeoutMs : UInt64 := 10000
  schemaLookback : String := "-10y"
  deriving DecidableEq, Repr

/-- The dashboard server. -/
structure GrafanaSettings where
  url : Option String := none
  publicUrl : String := "http://localhost:3006"
  apiToken : Option String := none
  username : Option String := none
  password : Option String := none
  datasourceName : String := "InfluxDB-v2"
  datasourceInfluxUrl : String := "http://influxdb:8086"
  defaultBucket : String := "influx-bucket"
  requestTimeoutMs : UInt64 := 10000
  deriving DecidableEq, Repr

/-- What is logged, and how. -/
structure LogSettings where
  level : String := "info"
  format : String := "pretty"
  deriving DecidableEq, Repr

/-- All settings. -/
structure Settings where
  api : ApiSettings := {}
  influx : InfluxSettings := {}
  grafana : GrafanaSettings := {}
  logging : LogSettings := {}
  deriving DecidableEq, Repr

/-- The address to listen on. -/
def ApiSettings.address (s : ApiSettings) : String :=
  s.host ++ ":" ++ toString s.port.toNat

/-- Whether there is an API token that is not blank. -/
def GrafanaSettings.hasToken (s : GrafanaSettings) : Bool :=
  s.apiToken.any (!Text.isBlankText ·)

/-- Whether the dashboard server can be used: it has an address, and a
token or a user with a password. -/
def GrafanaSettings.isEnabled (s : GrafanaSettings) : Bool :=
  s.url.isSome && (s.hasToken || (s.username.isSome && s.password.isSome))

/-- The log filter for a level: the service itself and its transport. -/
def LogSettings.directive (level : String) : String :=
  "fluxbuilder=" ++ level ++ ",tower_http=" ++ level

end FluxComposer
