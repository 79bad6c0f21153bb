import FluxComposer.Settings.Document
/-
Finding the settings. They come from a file, over which environment
variables have the last word. Without a named file the first of the usual
places counts whose content can be used, and without any the defaults.
-/
namespace FluxComposer.Settings

/-- The environment: the value of each variable that is set. -/
abbrev Environment := String → Option String

/-- Why a file gives no settings. -/
inductive Failure where
  /-- There is no file, or it is no text. -/
  | unreadable
  /-- It is not TOML, or a known key has the wrong type. -/
  | invalid
  deriving DecidableEq, Repr

-- ============================================================ numbers

/-- The digits of a number, behind a plus sign or not. -/
def unsignedDigits? (s : List Char) : Option (List Char) :=
  let ds := match s with
    | '+' :: ds => ds
    | ds => ds
  if ds.isEmpty || !ds.all Char.isDigit then none else some ds

/-- A number in decimal digits, behind a plus sign or not. -/
def unsigned? (s : String) : Option Nat :=
  (unsignedDigits? s.toList).map fun ds =>
    ds.foldl (fun n c => n * 10 + (c.toNat - 48)) 0

/-- A number in decimal digits below a bound. -/
def unsignedBelow? (bound : Nat) (s : String) : Option Nat :=
  (unsigned? s).filter (· < bound)

-- ======================================================== environment

/-- The settings under the variables of an environment. A port that is no
number of sixteen bits is passed over. -/
def override (env : Environment) (s : Settings) : Settings where
  api :=
    { s.api with
      host := (env "FLUXBUILDER_API_HOST").getD s.api.host
      port :=
        (((env "FLUXBUILDER_API_PORT").bind (unsignedBelow? (Nat.pow 2 16))).map
          UInt16.ofNat).getD s.api.port }
  influx :=
    { s.influx with url := (env "INFLUXDB_URL").getD s.influx.url }
  grafana :=
    { s.grafana with
      url := ((env "GRAFANA_URL").map Text.withoutTrailingSlashes).or
        s.grafana.url
      publicUrl := (env "GRAFANA_PUBLIC_URL").getD s.grafana.publicUrl
      apiToken := (env "GRAFANA_API_TOKEN").or s.grafana.apiToken
      username := (env "GRAFANA_USERNAME").or s.grafana.username
      password := (env "GRAFANA_PASSWORD").or s.grafana.password }
  logging :=
    { level := (env "FLUXBUILDER_LOG_LEVEL").getD s.logging.level
      format := (env "FLUXBUILDER_LOG_FORMAT").getD s.logging.format }

-- ============================================================== files

/-- The settings in a file, given its content if it can be read. -/
def load (content : Option ByteArray) : Except Failure Settings :=
  match content.bind String.fromUTF8? with
  | none => .error .unreadable
  | some text =>
    match ofText? text with
    | none => .error .invalid
    | some s => .ok s

/-- The settings in a file, under an environment. -/
def loadUnder (env : Environment) (content : Option ByteArray) :
    Except Failure Settings :=
  (load content).map (override env)

/-- The settings of an environment alone. -/
def ofEnvironment (env : Environment) : Settings := override env {}

/-- The settings in the first of several files that gives any. -/
def loadFirst (env : Environment) :
    (contents : List (Option ByteArray)) → Settings
  | [] => ofEnvironment env
  | content :: rest =>
    match loadUnder env content with
    | .ok s => s
    | .error _ => loadFirst env rest

end FluxComposer.Settings
