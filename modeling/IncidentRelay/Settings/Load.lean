import IncidentRelay.Files
import IncidentRelay.Settings.Codec
import IncidentRelay.Settings.CommandLine
import IncidentRelay.Settings.Environment
import IncidentRelay.Settings.Layer
import IncidentRelay.Toml.Reader

/-!
# Loading the settings

The settings are laid down in four layers, each over the one before: the defaults, a TOML file, the
environment and the command line. A file that is not there is an empty layer. What results must
describe settings, and the acknowledgment window must not be longer than the longest one.

## Main statements

* `load_waitMinutes_le`: loaded settings never have a window beyond the longest one.
-/

namespace IncidentRelay.Settings

open Json (Value)

/-- Where the settings file is unless the command line names another. -/
def defaultPath : String := "config/incidentd.toml"

/-- Why settings could not be loaded. -/
inductive LoadError
  /-- A layer or their sum does not describe settings. -/
  | fault (path : String) (f : Fault)
  | windowTooLong (minutes : Nat)
  deriving DecidableEq

/-- The text of a loading error. -/
def LoadError.message : LoadError → String
  | .fault path _ => "failed to load configuration from " ++ path
  | .windowTooLong minutes =>
    "oncall.wait_minutes must be at most " ++ toString maxWaitMinutes ++ " (got "
      ++ toString minutes ++ ")"

/-- The path of the settings file. -/
def filePath (cmd : CommandLine) : String := cmd.config.getD defaultPath

/-- The layer of the settings file. -/
def fileDocument? (files : Files) (path : String) : Option Value :=
  match files.read? path with
  | none => some (.object [])
  | some text => Toml.read text

/-- Loads the settings. -/
def load (cmd : CommandLine) (environment : Table String) (files : Files) :
    Except LoadError Settings :=
  let path := filePath cmd
  match fileDocument? files path with
  | none => .error (.fault path { kind := .unreadable })
  | some file =>
    let layers := [file, Environment.document environment, cmd.document]
    match codec.decode (layers.foldl Layer.merge (codec.encode {})) with
    | .error f => .error (.fault path f)
    | .ok s =>
      if maxWaitMinutes < s.onCall.waitMinutes then .error (.windowTooLong s.onCall.waitMinutes)
      else .ok s

/-- No window of loaded settings is longer than the longest one. -/
theorem load_waitMinutes_le {cmd : CommandLine} {environment : Table String} {files : Files}
    {s : Settings} (h : load cmd environment files = .ok s) :
    s.onCall.waitMinutes ≤ maxWaitMinutes := by
  simp only [load] at h
  split at h
  · cases h
  · split at h
    · cases h
    · split at h
      · cases h
      · cases h
        omega

end IncidentRelay.Settings
