import IncidentRelay.Json.Value
import IncidentRelay.Text.Ascii
import IncidentRelay.Word

/-!
# The command line

The options of the program and how they are read. Options take their value from the next argument,
or after an equals sign, and the short ones also directly. An option may be given once, and nothing
but options is accepted. Reading stops at the first fault, and asking for help or for the version
counts as one.
-/

namespace IncidentRelay

open Json (Value)

/-- What the command line sets. -/
structure CommandLine where
  config : Option String := none
  host : Option String := none
  port : Option Nat := none
  logLevel : Option String := none
  onCallEnable : Option Bool := none
  onCallWaitMinutes : Option Nat := none
  deriving DecidableEq

namespace CommandLine

/-- Why a command line is not carried out. -/
inductive Refusal
  | help
  | version
  | unknownArgument
  /-- An option without a value, or with none of the values it can have. -/
  | invalidValue
  /-- A number that is none or out of range. -/
  | invalidNumber
  | repeated
  /-- A value for an option that takes none. -/
  | unexpectedValue
  deriving DecidableEq

/-- The options with a value. -/
inductive Option_
  | config
  | host
  | port
  | logLevel
  | onCallEnable
  | onCallWaitMinutes
  deriving DecidableEq

/-- What an argument's name asks for. -/
inductive Named
  | valued (o : Option_)
  | help
  | version

/-- The long names. -/
def long? : String → Option Named
  | "config" => some (.valued .config)
  | "host" => some (.valued .host)
  | "port" => some (.valued .port)
  | "log-level" => some (.valued .logLevel)
  | "oncall-enable" => some (.valued .onCallEnable)
  | "oncall-wait-minutes" => some (.valued .onCallWaitMinutes)
  | "help" => some .help
  | "version" => some .version
  | _ => none

/-- The short names. -/
def short? : Char → Option Named
  | 'c' => some (.valued .config)
  | 'p' => some (.valued .port)
  | 'h' => some .help
  | 'V' => some .version
  | _ => none

/-- A decimal number up to a bound; a plus may stand before it, and a minus where `signed`. -/
def number? (signed : Bool) (high : Nat) (s : String) : Option Nat :=
  let (negative, ds) := match s.toList with
    | '+' :: ds => (false, ds)
    | '-' :: ds => (true, ds)
    | ds => (false, ds)
  let n := Text.digitsValue ds
  if ds = [] ∨ !ds.all Text.isDigit ∨ high < n ∨ (negative ∧ (!signed ∨ n ≠ 0)) then none
  else some n

/-- Whether an option has a value already. -/
def isSet (c : CommandLine) : Option_ → Bool
  | .config => c.config.isSome
  | .host => c.host.isSome
  | .port => c.port.isSome
  | .logLevel => c.logLevel.isSome
  | .onCallEnable => c.onCallEnable.isSome
  | .onCallWaitMinutes => c.onCallWaitMinutes.isSome

/-- Gives an option its value. -/
def set (c : CommandLine) (o : Option_) (value : String) : Except Refusal CommandLine :=
  if c.isSet o then .error .repeated
  else match o with
    | .config => if value = "" then .error .invalidValue else .ok { c with config := some value }
    | .host => .ok { c with host := some value }
    | .port =>
      match number? true 65535 value with
      | some n => .ok { c with port := some n }
      | none => .error .invalidNumber
    | .logLevel => .ok { c with logLevel := some value }
    | .onCallEnable =>
      if value = "true" then .ok { c with onCallEnable := some true }
      else if value = "false" then .ok { c with onCallEnable := some false }
      else .error .invalidValue
    | .onCallWaitMinutes =>
      match number? false maxWord value with
      | some n => .ok { c with onCallWaitMinutes := some n }
      | none => .error .invalidNumber

/-- An option that was named in an argument of its own, with its value once it is read. It is set
only when the next option comes or the arguments end. -/
structure Waiting where
  option : Option_
  value : Option String := none

/-- Sets the option that waits, if one does. -/
def settle (c : CommandLine) : Option Waiting → Except Refusal CommandLine
  | none => .ok c
  | some ⟨o, some v⟩ => c.set o v
  | some ⟨_, none⟩ => .error .invalidValue

/-- The state between two arguments. -/
abbrev Reading := CommandLine × Option Waiting

/-- Reads a name with the value attached to it, if any. -/
def named (r : Reading) (n : Named) (attached : Option String) : Except Refusal Reading :=
  match n, attached with
  | .valued o, some v =>
    match settle r.1 r.2 with
    | .error e => .error e
    | .ok c =>
      match c.set o v with
      | .error e => .error e
      | .ok c => .ok (c, none)
  | .valued o, none =>
    match settle r.1 r.2 with
    | .error e => .error e
    | .ok c => .ok (c, some { option := o })
  | .help, none =>
    match settle r.1 r.2 with
    | .error e => .error e
    | .ok _ => .error .help
  | .version, none =>
    match settle r.1 r.2 with
    | .error e => .error e
    | .ok _ => .error .version
  | _, some _ => .error .unexpectedValue

/-- Reads an argument. -/
def argument (r : Reading) (s : String) : Except Refusal Reading :=
  match s.toList with
  | '-' :: '-' :: cs =>
    let name := cs.takeWhile (· != '=')
    let attached := match cs.dropWhile (· != '=') with
      | _ :: v => some (String.ofList v)
      | [] => none
    match long? (String.ofList name) with
    | some n => named r n attached
    | none => .error .unknownArgument
  | '-' :: c :: cs =>
    match short? c with
    | some (.valued o) =>
      match cs with
      | [] => named r (.valued o) none
      | '=' :: v => named r (.valued o) (some (String.ofList v))
      | v => named r (.valued o) (some (String.ofList v))
    | some n => named r n none
    | none => .error .unknownArgument
  | _ =>
    match r with
    | (c, some ⟨o, none⟩) => .ok (c, some ⟨o, some s⟩)
    | _ => .error .unknownArgument

/-- Reads arguments in order. Two hyphens alone end the options, and nothing may come after. -/
def parseFrom (r : Reading) : List String → Except Refusal CommandLine
  | [] => settle r.1 r.2
  | s :: rest =>
    if s = "--" then
      match rest with
      | [] => settle r.1 r.2
      | _ => .error .unknownArgument
    else
      match argument r s with
      | .error e => .error e
      | .ok r => parseFrom r rest

/-- Reads the arguments after the program's name. -/
def parse (args : List String) : Except Refusal CommandLine := parseFrom ({}, none) args

/-- An object of those members that have a value. -/
def given (members : List (String × Option Value)) : List (String × Value) :=
  members.filterMap fun (k, v) => v.map fun v => (k, v)

/-- The document of the command line, which mentions only what was given. -/
def document (c : CommandLine) : Value :=
  let server := given [("host", c.host.map .string), ("port", c.port.map .nat)]
  let onCall := given
    [("enable", c.onCallEnable.map .bool), ("wait_minutes", c.onCallWaitMinutes.map .nat)]
  .object <| given
    [("log_level", c.logLevel.map .string),
     ("oncall", if onCall = [] then none else some (.object onCall)),
     ("server", if server = [] then none else some (.object server))]

end CommandLine

end IncidentRelay
