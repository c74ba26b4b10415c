import IncidentRelay.Channel.Build
import IncidentRelay.Json.Writer
import IncidentRelay.Log.Filter
import IncidentRelay.Metrics
import IncidentRelay.Paging.Pager
import IncidentRelay.Settings.Load
import IncidentRelay.Startup
import IncidentRelay.Tasks

/-!
# The program

One run of the service from its command line to its end: what it prints, and the code it exits
with. The run loads the settings, sets up logging, starts the service, and stops it in good order
when it is told to.

## Main statements

* `Program.run_of_usage_error`: a command line that cannot be read ends the run with code 2.
-/

namespace IncidentRelay

/-- What the program finds around it. -/
structure Surroundings where
  files : Files
  environment : Table String
  /-- What comes of connecting to the Redis server of the settings. -/
  redis : Except StoreError Unit
  /-- The address at which the program listens, or why it cannot. -/
  listening : Settings.Server → Except String String

namespace Program

/-- A line that is printed. -/
inductive Line
  | plain (text : String)
  | log (format : LogFormat) (e : Log.Entry)

/-- What a run printed, and the code it exited with. -/
structure Run where
  exit : Nat
  out : List Line := []
  err : List String := []

/-- The version of the program. -/
def version : String := "incidentd 0.1.0"

/-- The help on the command line. -/
def help : List String :=
  ["Incident fan-out and on-call escalation service", "", "Usage: incidentd [OPTIONS]", "",
    "Options:",
    "  -c, --config <FILE>                  Path to the TOML configuration file",
    "      --host <HOST>                    Interface to bind the HTTP server to",
    "  -p, --port <PORT>                    Port to bind the HTTP server to",
    "      --log-level <FILTER>             Log filter, e.g. `info` or `incidentd=debug`",
    "      --oncall-enable <BOOL>           Enable or disable on-call escalation "
      ++ "[possible values: true, false]",
    "      --oncall-wait-minutes <MINUTES>  Minutes to wait for an acknowledgment before paging",
    "  -h, --help                           Print help",
    "  -V, --version                        Print version"]

/-- An entry of the program itself. -/
def note (message : String) : Log.Entry := { level := .info, target := "incidentd", message }

/-- A setting that is on or off, as entries show it. -/
def shownFlag (b : Bool) : String := if b then "true" else "false"

/-- What is logged about the settings. -/
def summary (s : Settings) : List Log.Entry :=
  ["incidentd starting up...",
    "-------------------- Configuration --------------------",
    "Listen Address: " ++ s.server.host ++ ":" ++ toString s.server.port,
    "Public Host: " ++ s.server.publicHost,
    "On-Call Enabled: " ++ shownFlag s.onCall.enable,
    "On-Call Initialized Only: " ++ shownFlag s.onCall.initializedOnly,
    "On-Call Wait: " ++ toString s.onCall.waitMinutes ++ " minutes",
    "On-Call Provider: " ++
      (match s.onCall.provider with
        | .incidentManager => "AwsIncidentManager"
        | .pagerDuty => "Pagerduty"),
    "Escalation Store: " ++
      (match s.store.backend with
        | .redis => "Redis"
        | .memory => "Memory"),
    "Metrics Enabled: " ++ shownFlag s.metrics.enabled,
    "-------------------------------------------------------"].map note

/-- The parts of the service as the settings choose them. -/
def parts (around : Surroundings) (s : Settings) : Startup.Parts where
  store :=
    match s.store.backend with
    | .redis => around.redis
    | .memory => .ok ()
  pager := (Pager.create s).map Pager.name
  channels := (buildChannels around.files s.alert).map fun cs => cs.map Channel.name

/-- What is logged when the page on metrics is set up. -/
def metrics (s : Settings) : List Log.Entry :=
  if metricsInstalled s.metrics.enabled false then
    [{ level := .info, target := "incidentd::internal_metrics",
       message := "Prometheus metrics enabled on /metrics.", spans := [Startup.span] }]
  else []

/-- Listens for requests. -/
def listen (around : Surroundings) (s : Settings) : Startup Unit :=
  match around.listening s.server with
  | .ok address =>
    ([Startup.note "HTTP server listening." [("local_addr", .plain address)]], .ok ())
  | .error reason =>
    ([], .error (.listener (s.server.host ++ ":" ++ toString s.server.port) reason))

/-- The task that serves requests. -/
def server : BackgroundTask := { name := "HttpServer", work := .untilStopped }

/-- What is logged when the task that serves requests is started. -/
def serving : Log.Entry := { Tasks.spawned server with spans := [Startup.span] }

/-- What is logged from the signal to stop until the end. -/
def stopping : List Log.Entry :=
  [note "Shutdown signal received. Shutting down gracefully...",
    { note "Shutdown signal received. Waiting for tasks to complete..." with
      target := Startup.target }]
    ++ Tasks.shutdown [server] ++ [note "incidentd stopped."]

/-- Starts the service. -/
def start (around : Surroundings) (s : Settings) : Startup Unit :=
  Startup.andThen (summary s ++ metrics s, .ok ()) fun _ =>
    (Startup.prepare (parts around s) s).andThen fun _ =>
      (listen around s).andThen fun _ => ([serving], .ok ())

/-- The lines of an error that ends the program. -/
def fatal (message : String) (cause : Option String) : List String :=
  match cause with
  | none => ["Error: " ++ message]
  | some c => ["Error: " ++ message, "", "Caused by:", "    " ++ c]

/-- A run with settings and a filter. -/
def runWith (around : Surroundings) (s : Settings) (filter : Log.Filter) : Run :=
  let lines (es : List Log.Entry) : List Line :=
    (es.filter fun e => filter.admits e).map (.log s.logFormat)
  match start around s with
  | (log, .ok ()) => { exit := 0, out := lines (log ++ stopping) }
  | (log, .error e) => { exit := 1, out := lines log, err := fatal e.context (some e.cause) }

/-- The variable of the environment that can name a log filter. -/
def filterVariable : String := "RUST_LOG"

/-- A run with settings. -/
def runLoaded (around : Surroundings) (s : Settings) : Run :=
  match Log.setup (Table.get? around.environment filterVariable) s.logLevel false with
  | .error e => { exit := 1, err := fatal e.message none }
  | .ok filter => runWith around s filter

/-- A run of the program. -/
def run (around : Surroundings) (args : List String) : Run :=
  match CommandLine.parse args with
  | .error .help => { exit := 0, out := help.map .plain }
  | .error .version => { exit := 0, out := [.plain version] }
  | .error _ => { exit := 2, err := ["For more information, try --help."] }
  | .ok cmd =>
    match Settings.load cmd around.environment around.files with
    | .ok s => runLoaded around s
    | .error e =>
      { exit := 1,
        out := [.log .text
          { level := .error, target := "incidentd",
            message := "Failed to load configuration: " ++ e.message }] }

/-- The files that hold the settings of a run. -/
def settingsPaths (args : List String) : List String :=
  match CommandLine.parse args with
  | .ok cmd => [Settings.filePath cmd]
  | .error _ => []

/-- The files that hold the templates of a run whose settings are in these files. -/
def templatePaths (files : Files) (environment : Table String) (args : List String) :
    List String :=
  match CommandLine.parse args with
  | .error _ => []
  | .ok cmd =>
    match Settings.load cmd environment files with
    | .error _ => []
    | .ok s =>
      [s.alert.slack.templatePath, s.alert.telegram.templatePath, s.alert.email.templatePath,
        s.alert.teams.templatePath, s.alert.lark.templatePath]

/-- A line as it is printed. -/
def Line.text : Line → String
  | .plain s => s
  | .log .text e => e.level.name ++ " " ++ e.target ++ ": " ++ e.line
  | .log .json e =>
    (Json.Value.object [("level", .string e.level.name), ("message", .string e.message),
      ("target", .string e.target)]).write

/-- Wrong usage ends the program with the code 2. -/
theorem run_of_usage_error (around : Surroundings) {args : List String} {r : CommandLine.Refusal}
    (h : CommandLine.parse args = .error r) (help : r ≠ .help) (version : r ≠ .version) :
    (run around args).exit = 2 := by
  unfold run
  rw [h]
  cases r <;> first | rfl | exact absurd rfl help | exact absurd rfl version

end Program

end IncidentRelay
