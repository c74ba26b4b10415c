import IncidentRelay.Settings.Basic
import IncidentRelay.Text.Quoted

/-!
# Log entries

What the service logs: a message with a level, the part of the program it comes from, and fields
with values. An entry may be made inside a span, which is a stretch of work with a name.

## Main statements

* `Level.rank_injective`: different levels have different ranks.
-/

namespace IncidentRelay.Log

/-- How grave an entry is. -/
inductive Level
  | error
  | warn
  | info
  | debug
  | trace
  deriving DecidableEq

/-- The place of a level, the gravest first. -/
def Level.rank : Level → Nat
  | .error => 1
  | .warn => 2
  | .info => 3
  | .debug => 4
  | .trace => 5

/-- Levels are told apart by their ranks. -/
theorem Level.rank_injective {a b : Level} (h : a.rank = b.rank) : a = b := by
  cases a <;> cases b <;> first | rfl | cases h

/-- A level as entries show it. -/
def Level.name : Level → String
  | .error => "ERROR"
  | .warn => "WARN"
  | .info => "INFO"
  | .debug => "DEBUG"
  | .trace => "TRACE"

/-- A stretch of work. -/
structure Span where
  name : String
  /-- The part of the program that does the work. -/
  target : String
  deriving DecidableEq

/-- The value of a field. -/
inductive FieldValue
  /-- A text that is shown in quotes. -/
  | text (s : String)
  /-- What is shown as it is. -/
  | plain (s : String)
  deriving DecidableEq

/-- A value as entries show it. -/
def FieldValue.shown : FieldValue → String
  | .text s => Text.quoted s
  | .plain s => s

/-- A log entry. -/
structure Entry where
  level : Level
  /-- The part of the program that the entry comes from. -/
  target : String
  message : String
  fields : List (String × FieldValue) := []
  /-- The spans around the entry. -/
  spans : List Span := []
  deriving DecidableEq

/-- The message with its fields behind it. -/
def Entry.line (e : Entry) : String :=
  e.fields.foldl (fun s f => s ++ " " ++ f.1 ++ "=" ++ f.2.shown) e.message

/-- The text in a field. -/
def Entry.text? (e : Entry) (name : String) : Option String :=
  match e.fields.find? (·.1 == name) with
  | some (_, .text s) => some s
  | _ => none

end IncidentRelay.Log
