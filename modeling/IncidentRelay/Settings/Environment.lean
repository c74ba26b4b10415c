import IncidentRelay.Decimal.FloatText
import IncidentRelay.Settings.Layer
import IncidentRelay.Text.Blank
import IncidentRelay.Text.Lines
import IncidentRelay.Toml.Text
import IncidentRelay.Word

/-!
# Settings from the environment

A variable whose name begins with `INCIDENTD_`, in any case, names a setting: what follows is taken
in small letters, and two underscores or a point lead one section deeper. The value is read as a
truth value, a number, a quoted text, a list or a table where it looks like one from end to end, and
is a text otherwise.
-/

namespace IncidentRelay.Settings.Environment

open Json (Fields Value)

/-- What the names of variables begin with. -/
def namePrefix : List Char := "incidentd_".toList

/-- The blanks of ASCII that are skipped around values. -/
def isSpace (c : Char) : Bool :=
  c == ' ' || c == '\t' || c == '\n' || c == '\r' || c.toNat == 12

/-- A character that ends a plain value. -/
def isSeparator (c : Char) : Bool := c == ',' || c == '{' || c == '}' || c == '[' || c == ']'

/-- A decimal integer with an optional plus, of at most 64 bits. -/
def unsigned? (cs : List Char) : Option Int :=
  let ds := match cs with
    | '+' :: ds => ds
    | ds => ds
  let n := Text.digitsValue ds
  if ds ≠ [] ∧ ds.all Text.isDigit ∧ n ≤ maxWord then some n else none

/-- A decimal integer with a minus, of at most 64 bits. -/
def negative? (cs : List Char) : Option Int :=
  match cs with
  | '-' :: ds =>
    let n := Text.digitsValue ds
    if ds ≠ [] ∧ ds.all Text.isDigit ∧ n ≤ minSignedSize then some (-n) else none
  | _ => none

/-- A value without quotes or brackets. -/
def scalar (cs : List Char) : Value :=
  let cs := Text.trimBy Text.isBlank cs
  let isFloat := cs.contains '.' && (Decimal.float? (String.ofList cs)).isSome
  if isFloat then .number (.float Decimal.Binary64.zero)
  else match unsigned? cs with
    | some i => .int i
    | none =>
      match negative? cs with
      | some i => .int i
      | none => .string (String.ofList cs)

/-- Reads a quoted text from its opening quote. -/
def quoted? : (fuel : Nat) → (read : List Char) → List Char → Option (String × List Char)
  | 0, _, _ => none
  | _, _, [] => none
  | fuel + 1, read, c :: rest =>
    if c = '"' then some (String.ofList read.reverse, rest)
    else if c = '\\' then (Toml.escape? rest).bind fun (d, rest) => quoted? fuel (d :: read) rest
    else quoted? fuel (c :: read) rest

/-- A character of a name inside braces. -/
def isNameChar (c : Char) : Bool := Text.isAlphanumeric c || c == '_' || c == '-'

/-- Reads a name inside braces. -/
def name? (cs : List Char) : Option (String × List Char) :=
  match cs with
  | '"' :: rest => quoted? (cs.length + 1) [] rest
  | _ =>
    let run := cs.takeWhile isNameChar
    if run = [] then none else some (String.ofList run, cs.dropWhile isNameChar)

mutual

/-- Reads a value with the blanks around it. -/
def value? : (fuel : Nat) → List Char → Option (Value × List Char)
  | 0, _ => none
  | fuel + 1, cs =>
    let cs := cs.dropWhile isSpace
    let read : Option (Value × List Char) :=
      match cs with
      | 't' :: 'r' :: 'u' :: 'e' :: rest => some (.bool true, rest)
      | 'f' :: 'a' :: 'l' :: 's' :: 'e' :: rest => some (.bool false, rest)
      | '{' :: rest => (entries? fuel rest).map fun (es, rest) => (.object (Table.ofList es), rest)
      | '[' :: rest => (items? fuel rest).map fun (vs, rest) => (.array vs, rest)
      | '"' :: rest => (quoted? (cs.length + 1) [] rest).map fun (s, rest) => (.string s, rest)
      | '\'' :: c :: '\'' :: rest => some (.string c.toString, rest)
      | '\'' :: _ => none
      | _ =>
        some (scalar (cs.takeWhile fun c => !isSeparator c), cs.dropWhile fun c => !isSeparator c)
    read.map fun (v, rest) => (v, rest.dropWhile isSpace)

/-- Reads items up to the closing bracket. -/
def items? : (fuel : Nat) → List Char → Option (List Value × List Char)
  | 0, _ => none
  | fuel + 1, cs =>
    match cs with
    | ']' :: rest => some ([], rest)
    | _ => (value? fuel cs).bind fun
      | (v, ',' :: rest) => (items? fuel rest).map fun (vs, rest) => (v :: vs, rest)
      | (v, ']' :: rest) => some ([v], rest)
      | _ => none

/-- Reads entries up to the closing brace. -/
def entries? : (fuel : Nat) → List Char → Option (List (String × Value) × List Char)
  | 0, _ => none
  | fuel + 1, cs =>
    match cs with
    | '}' :: rest => some ([], rest)
    | _ => (name? (cs.dropWhile isSpace)).bind fun (k, rest) =>
      match rest.dropWhile isSpace with
      | '=' :: rest => (value? fuel rest).bind fun
        | (v, ',' :: rest) => (entries? fuel rest).map fun (es, rest) => ((k, v) :: es, rest)
        | (v, '}' :: rest) => some ([(k, v)], rest)
        | _ => none
      | _ => none

end

/-- The value of a variable: what it reads as from end to end, or else its text. -/
def value (s : String) : Value :=
  match value? (s.length + 2) s.toList with
  | some (v, []) => v
  | _ => .string s

/-- The names that a variable's name leads through, or nothing when it names no setting. -/
def path? (name : String) : Option (List String) :=
  let cs := (Text.trimBy Text.isBlank name.toList).map Text.lowerAscii
  if namePrefix.isPrefixOf cs then
    let rest := String.ofList (cs.drop namePrefix.length)
    let parts := Text.split '.' (Text.trim (Text.replace rest "__" "."))
    if parts.any (· = "") then none else some parts
  else none

/-- A document with one value at the end of a path. -/
def nest (path : List String) (v : Value) : Value :=
  path.foldr (fun k inner => .object [(k, inner)]) v

/-- The document of the environment. -/
def document (environment : Table String) : Value :=
  environment.foldl (fun doc (name, text) =>
    match path? name with
    | some path => Layer.merge doc (nest path (value text))
    | none => doc) (.object [])

end IncidentRelay.Settings.Environment
