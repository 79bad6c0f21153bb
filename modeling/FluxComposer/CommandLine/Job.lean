import FluxComposer.CommandLine.Arguments
import FluxComposer.Http.Status
import FluxComposer.Http.Url
import FluxComposer.Query.Encoding
import FluxComposer.Query.Parse
import FluxComposer.Query.Render
import FluxComposer.Settings.Template
import FluxComposer.Text.Hidden
/-
What the commands do. A job is the sequence of steps of one command:
files that are read and written and requests that are sent, each with an
answer, up to the outcome of the program. The steps are only described
here, so a job can be carried out on real files or on none at all.
-/
namespace FluxComposer.CommandLine

/-- How the program ends: its exit code, and what it writes. -/
structure Outcome where
  code : UInt32 := 0
  out : String := ""
  err : String := ""
  deriving DecidableEq, Repr, Inhabited

/-- Where a command reads from. -/
inductive Source where
  | file (path : String)
  | standardInput
  deriving DecidableEq, Repr

/-- The steps of a command. What cannot be read or written is answered
with the reason. -/
inductive Job where
  | done (outcome : Outcome)
  | read (source : Source) (next : Except String String → Job)
  /-- Writes a file, making the directories that it stands in. -/
  | write (path content : String) (next : Except String Unit → Job)
  | ask (request : Http.Request) (next : Http.Exchange → Job)

-- =========================================================== outcomes

/-- The outcome that is a line of text. -/
def Outcome.line (text : String) : Outcome := { out := text ++ "\n" }

/-- The outcome of a command that fails. -/
def Outcome.failed (reason : String) : Outcome :=
  { code := 1, err := "Error: " ++ reason ++ "\n" }

/-- The outcome of a command that fails while it does something, for a
reason of its own. -/
def Outcome.failedAt (activity reason : String) : Outcome :=
  .failed (activity ++ "\n\nCaused by:\n    " ++ reason)

/-- The name and the version of the program. -/
def versionText : String := "fluxbuilder 0.1.0"

/-- How the program is used. -/
def helpText : String :=
  String.join (([
    "Build and translate Flux queries",
    "",
    "Usage: fluxbuilder-cli [OPTIONS] <COMMAND>",
    "",
    "Commands:",
    "  translate [FILE]  Show the model of a Flux text",
    "  render [FILE]     Show the Flux text of a model",
    "  build             Build a query from selections",
    "  status            Show server status",
    "  config            Write the default settings file",
    "  help              Show this text",
    "",
    "Options of build:",
    "  -b, --bucket <NAME>       Bucket",
    "  -s, --start <TIME>        Range start [default: -1h]",
    "      --stop <TIME>         Range stop",
    "  -m, --measurement <NAME>  Measurement",
    "      --field <NAME>        Field, repeated for several",
    "",
    "Options of config:",
    "  -o, --output <FILE>  File to write [default: standard output]",
    "",
    "Options of every command:",
    "      --api-url <URL>    Server [default: http://localhost:3001]",
    "  -f, --format <FORMAT>  text or json [default: text]",
    "  -h, --help             Show this text",
    "  -V, --version          Show the version"] : List String).map
      (· ++ "\n"))

/-- The outcome where no command is carried out. -/
def Stop.outcome : Stop → Outcome
  | .help => { out := helpText }
  | .version => .line versionText
  | .usage error =>
    { code := 2, err := "error: " ++ error.message ++ "\n\n" ++ helpText }

-- ============================================================ queries

/-- Shows the query that a text means. That the text is kept raw is said
only where the query is not read by a machine. -/
def translated (format text : String) : Outcome :=
  let q := Query.parse text
  { Outcome.line q.toJson.indented with
    err := if q.isRaw && format ≠ "json" then
        "Query uses stages outside the builder subset; kept as raw text\n"
      else "" }

/-- Shows the text of the query that a JSON text is. -/
def rendered (input : String) : Outcome :=
  match Json.Decode.whole (Query.decode 0) input.toList with
  | .ok q => .line q.text
  | .error .malformed =>
    .failedAt "input is not a valid query model" "the text is not JSON"
  | .error .mismatch =>
    .failedAt "input is not a valid query model"
      "the value is not a model"

/-- Shows the query that reads what is chosen. -/
def built (format : String) (c : Choices) : Outcome :=
  if c.measurement.isNone && !c.fields.isEmpty then
    .failed "--field requires --measurement"
  else if format = "json" then .line c.query.toJson.indented
  else .line c.query.text

/-- Reads the input of a command and goes on with it. -/
def withInput (file : Option String) (next : String → Outcome) : Job :=
  match file with
  | some path => .read (.file path) fun
    | .ok text => .done (next text)
    | .error reason =>
      .done (.failedAt ("reading " ++ Text.shown path) reason)
  | none => .read .standardInput fun
    | .ok text => .done (next text)
    | .error reason => .done (.failed reason)

-- ============================================================= status

/-- A time in seconds, by its two largest units. -/
def durationText (seconds : Nat) : String :=
  if seconds < 60 then toString seconds ++ "s"
  else if seconds < 3600 then
    toString (seconds / 60) ++ "m " ++ toString (seconds % 60) ++ "s"
  else
    toString (seconds / 3600) ++ "h "
      ++ toString (seconds % 3600 / 60) ++ "m"

/-- A natural number of 64 bits in a member of a value. -/
def count? (key : String) (j : Json) : Option Nat :=
  match j.get? key with
  | some (.number (.integer n)) => if 0 ≤ n then some n.toNat else none
  | _ => none

/-- The report on a healthy service. -/
def healthReport (health : Json) : String :=
  let status := match health.get? "status" with
    | some (.string s) => s
    | _ => "unknown"
  let grafana := match health.get? "grafana" with
    | some (.bool true) => "enabled"
    | _ => "disabled"
  let uptime := match count? "uptime_seconds" health with
    | some seconds => ["", "Uptime: " ++ durationText seconds]
    | none => []
  String.join (([
    "fluxbuilder v0.1.0", "", "API Status: " ++ status,
    "Sessions: " ++ toString ((count? "sessions" health).getD 0),
    "Grafana: " ++ grafana] ++ uptime).map (· ++ "\n"))

/-- The outcome where the service cannot be reached. -/
def unreached (apiUrl reason : String) : Outcome :=
  { Outcome.failed reason with
    err := "Cannot connect to fluxbuilder API at " ++ apiUrl ++ "\n\n"
      ++ "Make sure the API server is running:\n"
      ++ "  cargo run --bin fluxbuilder\n"
      ++ (Outcome.failed reason).err }

/-- Shows how the service is doing, by what became of a request for its
health. -/
def statusShown (apiUrl format : String) : Http.Exchange → Outcome
  | .replied r =>
    if r.isSuccess then
      match Json.parse? r.body with
      | none => .failed "error decoding response body"
      | some health =>
        if format = "json" then .line health.sorted.indented
        else { out := healthReport health }
    else .failed ("API returned error: " ++ Http.statusLine r.status)
  | .refused => unreached apiUrl "no connection"
  | .timedOut => unreached apiUrl "no answer in time"
  | .failed reason => unreached apiUrl reason

/-- Asks the service how it is doing. -/
def statusJob (apiUrl format : String) : Job :=
  let request : Http.Request := { method := "GET", url := apiUrl ++ "/health" }
  if request.isSendable then
    .ask request fun e => .done (statusShown apiUrl format e)
  else .done (unreached apiUrl "builder error")

-- =========================================================== programs

/-- Writes a settings file. -/
def configJob : (output : Option String) → Job
  | none => .done { out := Settings.template }
  | some path => .write path Settings.template fun
    | .ok () => .done (.line ("Config written to " ++ Text.shown path))
    | .error reason => .done (.failed reason)

/-- The steps of a command. -/
def Invocation.job (i : Invocation) : Job :=
  match i.command with
  | .translate file => withInput file (translated i.format)
  | .render file => withInput file rendered
  | .build c => .done (built i.format c)
  | .status => statusJob i.apiUrl i.format
  | .config output => configJob output

/-- The steps of the program. -/
def jobOf (arguments : List String) : Job :=
  match Invocation.ofArguments arguments with
  | .ok i => i.job
  | .error stop => .done stop.outcome

end FluxComposer.CommandLine
