import FluxComposer.Json.Value
/-
The dashboard that shows a query: one panel over the whole width with a
time series, whose only target is the query as it stands.
-/
namespace FluxComposer.Grafana

/-- A dashboard to create. -/
structure Dashboard where
  title : String
  fluxQuery : String
  datasourceUid : String
  panelTitle : Option String

/-- The datasource that a panel or a target names. -/
def datasourceRef (uid : String) : Json :=
  .object [("type", .string "influxdb"), ("uid", .string uid)]

/-- The target that carries the query. -/
def Dashboard.target (d : Dashboard) : Json :=
  .object [("refId", .string "A"), ("query", .string d.fluxQuery),
    ("queryType", .string "flux"),
    ("datasource", datasourceRef d.datasourceUid),
    ("resultFormat", .string "time_series")]

/-- The panel that shows the target. -/
def Dashboard.panel (d : Dashboard) : Json :=
  .object [("id", .nat 1),
    ("title", .string (d.panelTitle.getD "Flux Panel")),
    ("type", .string "timeseries"),
    ("datasource", datasourceRef d.datasourceUid),
    ("gridPos", .object [("h", .nat 10), ("w", .nat 24), ("x", .nat 0),
      ("y", .nat 0)]),
    ("targets", .array [d.target]), ("options", .object []),
    ("fieldConfig", .object [("defaults", .object []),
      ("overrides", .array [])])]

/-- The body of the request that creates the dashboard. -/
def Dashboard.payload (d : Dashboard) : Json :=
  .object [
    ("dashboard", .object [("title", .string d.title), ("uid", .null),
      ("timezone", .string "browser"), ("schemaVersion", .nat 38),
      ("version", .nat 0), ("panels", .array [d.panel])]),
    ("overwrite", .bool true)]

end FluxComposer.Grafana
