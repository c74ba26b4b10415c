import IncidentRelay.Settings.Basic
import IncidentRelay.Table
import IncidentRelay.Text.Lines
import IncidentRelay.Text.Quoted

/-!
# Commands to Redis and their replies

The few commands that the escalation store needs, and what Redis says to them. An error reply is a
code and, after a blank, a detail; the usual codes have names of their own in error texts.
-/

namespace IncidentRelay.Redis

/-- A command. -/
inductive Command
  | authenticate (password : String)
  | select (db : Int)
  | ping
  /-- Writes a record that runs out after a number of milliseconds. -/
  | put (key marker : String) (ttl : Nat)
  | present (key : String)
  | remove (key : String)
  deriving DecidableEq

/-- The words of a command as they are sent. -/
def Command.words : Command → List String
  | .authenticate password => ["AUTH", password]
  | .select db => ["SELECT", toString db]
  | .ping => ["PING"]
  | .put key marker ttl => ["PSETEX", key, toString ttl, marker]
  | .present key => ["EXISTS", key]
  | .remove key => ["DEL", key]

/-- An error reply. -/
structure Refusal where
  code : String
  detail : Option String := none
  deriving DecidableEq

/-- The error reply of a text. -/
def Refusal.ofText (s : String) : Refusal :=
  match Text.cut? ' ' s.toList with
  | some (code, detail) => ⟨String.ofList code, some (String.ofList detail)⟩
  | none => ⟨s, none⟩

/-- The names of the usual error codes. -/
def codeNames : Table String :=
  [("ASK", "Ask"), ("CLUSTERDOWN", "ClusterDown"), ("CROSSSLOT", "CrossSlot"),
    ("ERR", "ResponseError"), ("EXECABORT", "ExecAbortError"), ("LOADING", "BusyLoadingError"),
    ("MASTERDOWN", "MasterDown"), ("MOVED", "Moved"), ("NOSCRIPT", "NoScriptError"),
    ("NOTBUSY", "NotBusy"), ("READONLY", "ReadOnly"), ("TRYAGAIN", "TryAgain")]

/-- What happened, of which kind it is, and the detail if there is one. -/
def described (what kind : String) : Option String → String
  | some detail => what ++ " - " ++ kind ++ ": " ++ detail
  | none => what ++ "- " ++ kind

/-- The text of an error reply. -/
def Refusal.message (r : Refusal) : String :=
  match Table.get? codeNames r.code with
  | some name => described "An error was signalled by the server" name r.detail
  | none => r.code ++ ": " ++ r.detail.getD "Unknown extension error encountered"

/-- A reply. -/
inductive Reply
  | status (text : String)
  | integer (n : Int)
  /-- The reply that stands for nothing. -/
  | absent
  | refused (r : Refusal)
  deriving DecidableEq

/-- A whole number with or without a sign. -/
def integer? (s : String) : Option Int :=
  match s.toList with
  | '-' :: digits => (Text.natural? (String.ofList digits)).map fun n => -(n : Int)
  | '+' :: digits => (Text.natural? (String.ofList digits)).map fun n => (n : Int)
  | _ => (Text.natural? s).map fun n => (n : Int)

/-- The reply of a line. -/
def Reply.ofLine? (line : String) : Option Reply :=
  match line.toList with
  | '+' :: text => some (.status (String.ofList text))
  | '-' :: text => some (.refused (Refusal.ofText (String.ofList text)))
  | ':' :: text => (integer? (String.ofList text)).map .integer
  | ['_'] | ['$', '-', '1'] | ['*', '-', '1'] => some .absent
  | _ => none

/-- The reply that grants a command. -/
def granted : Reply := .status "OK"

/-- A reply as error texts show it. -/
def Reply.shown : Reply → String
  | .status text => if text = "OK" then "ok" else "simple-string(" ++ Text.quoted text ++ ")"
  | .integer n => "int(" ++ toString n ++ ")"
  | .absent => "nil"
  | .refused r => r.message

/-- Why a command came to nothing. -/
inductive Failure
  /-- Nothing listens at the address. -/
  | unreachable
  /-- The connection was lost. -/
  | lost
  | authentication
  /-- The database could not be chosen. -/
  | database (detail : Option String)
  | refused (r : Refusal)
  /-- The reply is of a type that answers nothing. -/
  | unexpected (complaint : String) (reply : Reply)
  deriving DecidableEq

/-- The text of a failure. -/
def Failure.message : Failure → String
  | .unreachable => "Connection refused (os error 111)"
  | .lost => "broken pipe"
  | .authentication => described "Password authentication failed" "AuthenticationFailed" none
  | .database detail => described "Redis server refused to switch database" "ResponseError" detail
  | .refused r => r.message
  | .unexpected complaint reply =>
    described "Response was of incompatible type" "TypeError"
      (some (Text.quoted complaint ++ " (response was " ++ reply.shown ++ ")"))

/-- Whether a failure is about the connection and not about the command. -/
def Failure.isLoss : Failure → Bool
  | .unreachable | .lost => true
  | _ => false

end IncidentRelay.Redis
