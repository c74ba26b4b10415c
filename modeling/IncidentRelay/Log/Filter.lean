import IncidentRelay.Log.Entry
import IncidentRelay.Text.Ascii
import IncidentRelay.Text.Blank
import IncidentRelay.Text.Letter
import IncidentRelay.Text.Lines

/-!
# Log filters

Which entries are written. A filter is a list of directives between commas. A directive names a
level, a part of the program, a span or several of these: it admits entries of that part, or entries
inside that span, up to the level. Of the directives for parts the most specific one that fits an
entry decides; a span only adds entries.
-/

namespace IncidentRelay.Log

/-- How many ranks of levels are admitted, from none to all five. -/
abbrev Rank := Nat

/-- Every level. -/
def Rank.all : Rank := 5

/-- The rank that a name or a number stands for. -/
def rank? (s : String) : Option Rank :=
  let digits := match s.toList with
    | '+' :: rest => String.ofList rest
    | _ => s
  match Text.natural? digits with
  | some n => if n ≤ Rank.all then some n else none
  | none =>
    if s = "" then some Level.error.rank
    else if Text.equalsIgnoringCase s "off" then some 0
    else
      ([.error, .warn, .info, .debug, .trace].find? fun l : Level =>
        Text.equalsIgnoringCase s l.name).map (·.rank)

/-- A directive. -/
structure Directive where
  rank : Rank := Rank.all
  /-- The beginning of the parts of the program that it is about. -/
  target : Option String := none
  span : Option String := none
  /-- The fields that are required, and whether a value is required of them. -/
  fields : List (String × Bool) := []
  deriving DecidableEq

/-- Why a filter cannot be read. -/
inductive FilterError
  | malformed
  | unknownLevel
  deriving DecidableEq

/-- The text of a filter error. -/
def FilterError.message : FilterError → String
  | .malformed => "invalid filter directive"
  | .unknownLevel =>
    "error parsing level filter: expected one of \"off\", \"error\", \"warn\", \"info\", "
      ++ "\"debug\", \"trace\", or a number 0-5"

namespace Directive

/-- Whether a directive for a part of the program can begin with a character. -/
def isStart (c : Char) : Bool := ['-', ':', '_'].contains c || Text.isWordCharacter c

/-- The directive with a level behind an equals sign; none stands for all levels. -/
def withLevel (d : Directive) (level : List Char) : Except FilterError Directive :=
  if level = [] then .ok { d with rank := Rank.all }
  else
    match rank? (String.ofList level) with
    | some r => .ok { d with rank := r }
    | none => .error .unknownLevel

/-- A required field. -/
def field (cs : List Char) : String × Bool :=
  match Text.cut? '=' cs with
  | some (name, _) => (String.ofList name, true)
  | none => (String.ofList cs, false)

/-- What follows a span: nothing, or a level. -/
def afterSpan (d : Directive) : List Char → Except FilterError Directive
  | [] => .ok d
  | '=' :: level => d.withLevel level
  | _ => .error .malformed

/-- A span in brackets, with a required field in braces. -/
def spanned (d : Directive) (cs : List Char) : Except FilterError Directive :=
  let name := cs.takeWhile fun c => c != ']' && c != '\x7b'
  match cs.dropWhile fun c => c != ']' && c != '\x7b' with
  | ']' :: rest => afterSpan { d with span := some (String.ofList name) } rest
  | '\x7b' :: inner =>
    match Text.cut? '\x7d' inner with
    | some (required, ']' :: rest) =>
      if required = [] then .error .malformed
      else
        afterSpan { d with
          span := if name = [] then none else some (String.ofList name)
          fields := [field required] } rest
    | _ => .error .malformed
  | _ => .error .malformed

/-- Reads one directive. A lone word is a level, or else a part of the program with all levels. The
lengths of the parts are those without the blanks around the directive, but the parts are cut from
it with its blanks. -/
def read (cs : List Char) : Except FilterError Directive :=
  match Text.trimBy Text.isBlank cs with
  | [] => .error .malformed
  | '[' :: rest => spanned {} rest
  | c :: rest =>
    if !isStart c then .error .malformed
    else
      let length := ((c :: rest).takeWhile fun c => c != '=' && c != '[').length
      let target := some (String.ofList (cs.take length))
      match (c :: rest).drop length with
      | [] =>
        match rank? (String.ofList cs) with
        | some r => .ok { rank := r }
        | none => .ok { target := some (String.ofList cs) }
      | '=' :: _ => withLevel { target } (cs.drop (length + 1))
      | _ :: rest => spanned { target } rest

/-- Whether a directive is about spans. -/
def isAboutSpans (d : Directive) : Bool := d.span.isSome || !d.fields.isEmpty

/-- Whether a directive is about entries. -/
def isAboutEntries (d : Directive) : Bool := d.span.isNone && !d.fields.any (·.2)

/-- Whether a directive fits a part of the program. -/
def fitsTarget (d : Directive) (target : String) : Bool :=
  match d.target with
  | some t => t.toList.isPrefixOf target.toList
  | none => true

/-- Whether a directive fits an entry. -/
def fits (d : Directive) (e : Entry) : Bool :=
  d.fitsTarget e.target && d.fields.all fun f => e.fields.any (·.1 == f.1)

/-- Whether a directive fits a span. No span has fields. -/
def fitsSpan (d : Directive) (s : Span) : Bool :=
  d.fitsTarget s.target && d.fields.isEmpty && d.span.all (· == s.name)

/-- How specific a directive about entries is: the longer its target, and then the more fields, the
more. -/
def weight (d : Directive) : Nat × Nat × Nat :=
  (if d.target.isSome then 1 else 0, (d.target.getD "").utf8ByteSize, d.fields.length)

/-- Whether a directive is more specific than another. -/
def isHeavier (d f : Directive) : Bool :=
  let (a, b, c) := d.weight
  let (x, y, z) := f.weight
  x < a || (x == a && (y < b || (y == b && z < c)))

/-- The more specific of two directives, the second if they are alike. -/
def heavier (d f : Directive) : Directive := if d.isHeavier f then d else f

end Directive

/-- A filter. -/
abbrev Filter := List Directive

namespace Filter

/-- Reads directives. -/
def readEach : List (List Char) → Except FilterError Filter
  | [] => .ok []
  | cs :: rest =>
    match Directive.read cs with
    | .error e => .error e
    | .ok d => (readEach rest).map (d :: ·)

/-- Reads a filter. -/
def read (s : String) : Except FilterError Filter :=
  match readEach ((Text.segments ',' s.toList).filter (· ≠ [])) with
  | .ok [] => .ok [{ rank := Level.error.rank }]
  | r => r

/-- The directive that decides on an entry. -/
def deciding? (f : Filter) (e : Entry) : Option Directive :=
  match f.filter fun d => d.isAboutEntries && d.fits e with
  | [] => none
  | d :: rest => some (rest.foldl Directive.heavier d)

/-- Whether a filter admits an entry. -/
def admits (f : Filter) (e : Entry) : Bool :=
  (match f.deciding? e with
    | some d => decide (e.level.rank ≤ d.rank)
    | none => false)
    || e.spans.any fun s =>
      f.any fun d => d.isAboutSpans && d.fitsSpan s && decide (e.level.rank ≤ d.rank)

end Filter

/-- Why logging could not be set up. -/
inductive SetupError
  | invalidLevel (level : String) (e : FilterError)
  /-- Another part of the process logs already. -/
  | taken
  deriving DecidableEq

/-- The text of a setup error. -/
def SetupError.message : SetupError → String
  | .invalidLevel level e => "invalid log level " ++ Text.quoted level ++ ": " ++ e.message
  | .taken => "failed to install tracing subscriber: a global default trace dispatcher has already "
      ++ "been set"

/-- The filter that is in force: the environment's if there is a valid one, and else the one that
the settings name. -/
def setup (environment : Option String) (level : String) (taken : Bool) :
    Except SetupError Filter :=
  let own : Except SetupError Filter := (Filter.read level).mapError (.invalidLevel level)
  let chosen : Except SetupError Filter := match environment.map Filter.read with
    | some (.ok f) => .ok f
    | _ => own
  match chosen with
  | .error e => .error e
  | .ok f => if taken then .error .taken else .ok f

end IncidentRelay.Log
