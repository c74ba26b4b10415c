import IncidentRelay.Channel.Error
import IncidentRelay.Log.Entry
import IncidentRelay.Paging.Error
import IncidentRelay.Store.Basic

/-!
# Starting the service

The parts of the service are made ready in a fixed order: the store and the pager, if there has to
be an escalation workflow, and then the channels. The first part that fails ends the start. Each
step is logged.
-/

namespace IncidentRelay

/-- Why the service could not start. -/
inductive StartupError
  | store (e : StoreError)
  | pager (e : PagingError)
  | channels (e : ChannelError)
  /-- The service could not listen at its address. -/
  | listener (address reason : String)
  deriving DecidableEq

namespace StartupError

/-- What was being done. -/
def context : StartupError → String
  | .store _ => "failed to connect to the escalation store"
  | .pager _ => "failed to initialize the on-call provider"
  | .channels _ => "invalid notification channel configuration"
  | .listener address _ => "failed to bind HTTP listener to " ++ address

/-- What went wrong. -/
def cause : StartupError → String
  | .store e => e.message
  | .pager e => e.message
  | .channels e => e.message
  | .listener _ reason => reason

/-- The text of a startup error. -/
def message (e : StartupError) : String := e.context ++ ": " ++ e.cause

end StartupError

/-- A step of the start: what it logged, and its result. -/
abbrev Startup (α : Type) := List Log.Entry × Except StartupError α

namespace Startup

variable {α β : Type}

/-- Goes on with a further step unless this one failed. -/
def andThen (x : Startup α) (f : α → Startup β) : Startup β :=
  match x.2 with
  | .ok a => (x.1 ++ (f a).1, (f a).2)
  | .error e => (x.1, .error e)

/-- The part of the program that starts the others. -/
def target : String := "incidentd::app"

/-- The stretch of work in which the service is made ready. -/
def span : Log.Span := { name := "build", target }

/-- An entry about the start. -/
def note (message : String) (fields : List (String × Log.FieldValue)) : Log.Entry :=
  { level := .info, target, message, fields, spans := [span] }

/-- What is logged before the store is connected to. -/
def connecting (s : Settings.Store) : Log.Entry :=
  match s.backend with
  | .redis =>
    { level := .info, target := "incidentd::store",
      message := "Connecting to Redis escalation store",
      fields := [("host", .plain s.redis.host), ("port", .plain (toString s.redis.port)),
        ("tls", .plain (toString s.redis.tls))],
      spans := [span] }
  | .memory =>
    { level := .warn, target := "incidentd::store",
      message :=
        "Using in-memory escalation store; pending escalations will not survive a restart.",
      spans := [span] }

/-- What comes of making each part of the service ready. -/
structure Parts where
  /-- Connecting to the store. -/
  store : Except StoreError Unit
  /-- Choosing the pager, to its name. -/
  pager : Except PagingError String
  /-- Building the channels, to their names. -/
  channels : Except ChannelError (List String)

/-- Connects to the store. -/
def store (parts : Parts) (s : Settings) : Startup Unit :=
  ([connecting s.store],
    match parts.store with
    | .ok () => .ok ()
    | .error e => .error (.store e))

/-- Chooses the pager. -/
def pager (parts : Parts) (s : Settings) : Startup Unit :=
  match parts.pager with
  | .ok name =>
    ([note "On-call workflow initialized."
      [("provider", .text name), ("wait_minutes", .plain (toString s.onCall.waitMinutes)),
        ("enabled_by_default", .plain (toString s.onCall.enable))]], .ok ())
  | .error e => ([], .error (.pager e))

/-- Makes the escalation workflow ready, if there has to be one. -/
def workflow (parts : Parts) (s : Settings) : Startup Unit :=
  if s.onCall.workflowRequired then (store parts s).andThen fun _ => pager parts s
  else ([note "On-call escalation disabled." []], .ok ())

/-- Builds the channels once, so that a fault shows at the start. -/
def channels (parts : Parts) : Startup Unit :=
  match parts.channels with
  | .ok names =>
    let shown := "[" ++ ", ".intercalate (names.map Text.quoted) ++ "]"
    ([note "Notification channels configured." [("channels", .plain shown)]], .ok ())
  | .error e => ([], .error (.channels e))

/-- Makes the parts of the service ready. -/
def prepare (parts : Parts) (s : Settings) : Startup Unit :=
  (workflow parts s).andThen fun _ => channels parts

end Startup

end IncidentRelay
