/-
The settings file that a new installation begins with: every setting at
its default, with a line on what it is for. Settings without a default
are commented out.
-/
namespace FluxComposer.Settings

/-- The text of a settings file with all defaults. -/
def template : String :=
  String.join (([
    "# fluxbuilder Configuration",
    "#",
    "# Environment variables override these settings:",
    "# - FLUXBUILDER_API_HOST",
    "# - FLUXBUILDER_API_PORT",
    "# - INFLUXDB_URL",
    "# - GRAFANA_URL",
    "# - GRAFANA_PUBLIC_URL",
    "# - GRAFANA_API_TOKEN",
    "# - GRAFANA_USERNAME / GRAFANA_PASSWORD",
    "# - FLUXBUILDER_LOG_LEVEL",
    "# - FLUXBUILDER_LOG_FORMAT",
    "",
    "[api]",
    "# API server host",
    "host = \"0.0.0.0\"",
    "",
    "# API server port",
    "port = 3001",
    "",
    "# Request timeout in seconds",
    "request_timeout_secs = 30",
    "",
    "# Login session lifetime in seconds",
    "session_ttl_secs = 3600",
    "",
    "[influxdb]",
    "# InfluxDB v2 server URL",
    "url = \"http://localhost:8086\"",
    "",
    "# Request timeout (ms)",
    "request_timeout_ms = 10000",
    "",
    "# How far back measurement and field listings look",
    "schema_lookback = \"-10y\"",
    "",
    "[grafana]",
    "# Grafana server URL (leave unset to disable dashboard creation)",
    "# url = \"http://localhost:3000\"",
    "",
    "# URL used for links opened in the browser",
    "public_url = \"http://localhost:3006\"",
    "",
    "# Either an API token or basic auth credentials",
    "# api_token = \"\"",
    "# username = \"admin\"",
    "# password = \"admin\"",
    "",
    "# Datasource created in Grafana for InfluxDB",
    "datasource_name = \"InfluxDB-v2\"",
    "",
    "# InfluxDB URL as reachable from Grafana",
    "datasource_influx_url = \"http://influxdb:8086\"",
    "",
    "# Default bucket for the datasource",
    "default_bucket = \"influx-bucket\"",
    "",
    "# Request timeout (ms)",
    "request_timeout_ms = 10000",
    "",
    "[logging]",
    "# Log level: trace, debug, info, warn, error",
    "level = \"info\"",
    "",
    "# Log format: pretty (for development) or json (for production)",
    "format = \"pretty\""] : List String).map (· ++ "\n"))

end FluxComposer.Settings
