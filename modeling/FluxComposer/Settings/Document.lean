import FluxComposer.Settings.Basic
import FluxComposer.Toml.Reader
/-
Settings from a TOML document. Groups and keys that are missing keep
their defaults and unknown ones are passed over; a known key of the wrong
type is refused. A group may also be an array of its values in order. A
date stands for a group without any known key.
-/
namespace FluxComposer.Settings

/-- Reads a value, if it has the right type. -/
abbrev Decoder (α : Type) := Toml → Option α

def text : Decoder String
  | .string s => some s
  | _ => none

/-- A whole number below a bound. -/
def natBelow (bound : Nat) : Decoder Nat
  | .integer i => if 0 ≤ i ∧ i < bound then some i.toNat else none
  | _ => none

def word64 : Decoder UInt64 := fun v =>
  (natBelow (Nat.pow 2 64) v).map UInt64.ofNat

def word16 : Decoder UInt16 := fun v =>
  (natBelow (Nat.pow 2 16) v).map UInt16.ofNat

-- ============================================================= groups

/-- A key of a group, and how its value is stored. -/
structure Key (σ : Type) where
  name : String
  store : Toml → σ → Option σ

/-- A key given by its decoder and by how its value is put. -/
def key {σ α : Type} (name : String) (decode : Decoder α)
    (put : α → σ → σ) : Key σ where
  name := name
  store := fun v s => (decode v).map (put · s)

/-- Stores the values of an array under the keys in order. Values beyond
the last key are passed over. -/
def storeInOrder {σ : Type} : List (Key σ) → List Toml → σ → Option σ
  | k :: ks, v :: vs, s => do storeInOrder ks vs (← k.store v s)
  | _, _, s => some s

/-- Stores the value of one entry. -/
def storeEntry {σ : Type} (keys : List (Key σ)) (s : σ)
    (entry : String × Toml) : Option σ :=
  match keys.find? (·.name = entry.1) with
  | some k => k.store entry.2 s
  | none => some s

/-- A group with the given keys over its defaults. -/
def group {σ : Type} (keys : List (Key σ)) (defaults : σ) : Decoder σ
  | .table _ entries => entries.foldlM (storeEntry keys) defaults
  | .array items | .tables items => storeInOrder keys items defaults
  | .datetime => some defaults
  | _ => none

-- =========================================================== settings

def apiGroup : Decoder ApiSettings :=
  group [
    key "host" text fun host s => { s with host },
    key "port" word16 fun port s => { s with port },
    key "request_timeout_secs" word64
      fun requestTimeoutSecs s => { s with requestTimeoutSecs },
    key "session_ttl_secs" word64
      fun sessionTtlSecs s => { s with sessionTtlSecs }] {}

def influxGroup : Decoder InfluxSettings :=
  group [
    key "url" text fun url s => { s with url },
    key "request_timeout_ms" word64
      fun requestTimeoutMs s => { s with requestTimeoutMs },
    key "schema_lookback" text
      fun schemaLookback s => { s with schemaLookback }] {}

def grafanaGroup : Decoder GrafanaSettings :=
  group [
    key "url" text fun url s => { s with url := some url },
    key "public_url" text fun publicUrl s => { s with publicUrl },
    key "api_token" text fun token s => { s with apiToken := some token },
    key "username" text fun name s => { s with username := some name },
    key "password" text fun word s => { s with password := some word },
    key "datasource_name" text
      fun datasourceName s => { s with datasourceName },
    key "datasource_influx_url" text
      fun datasourceInfluxUrl s => { s with datasourceInfluxUrl },
    key "default_bucket" text
      fun defaultBucket s => { s with defaultBucket },
    key "request_timeout_ms" word64
      fun requestTimeoutMs s => { s with requestTimeoutMs }] {}

def logGroup : Decoder LogSettings :=
  group [
    key "level" text fun level s => { s with level },
    key "format" text fun format s => { s with format }] {}

def ofDocument : Decoder Settings :=
  group [
    key "api" apiGroup fun api s => { s with api },
    key "influxdb" influxGroup fun influx s => { s with influx },
    key "grafana" grafanaGroup fun grafana s => { s with grafana },
    key "logging" logGroup fun logging s => { s with logging }] {}

/-- The settings that a text holds. -/
def ofText? (content : String) : Option Settings := do
  let entries ← Toml.parse? content
  ofDocument (.table .header entries)

end FluxComposer.Settings
