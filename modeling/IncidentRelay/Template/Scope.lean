import IncidentRelay.Template.Element
import IncidentRelay.Text.Ascii
import IncidentRelay.Word

/-!
# Scopes

Where a path leads. Every block that is being rendered has a value of its own, maybe names for its
values, and loop variables; a path starts at the innermost block unless it says otherwise. What is
not there is null, but an index into an array has to be a number.
-/

namespace IncidentRelay.Template

open Json (Value)

/-- A block that is being rendered. -/
structure Block where
  /-- The value that its paths start from. -/
  base : Value
  /-- The values that the block gave names to. -/
  named : List (String × Value) := []
  /-- The loop variables. -/
  looping : Table Value := []

/-- The blocks that are being rendered, the innermost first. -/
abbrev Scope := List Block

/-- The number of an array index, with an optional plus. -/
def index? (s : String) : Option Nat :=
  let digits := match s.toList with
    | '+' :: rest => rest
    | cs => cs
  if digits ≠ [] ∧ digits.all Text.isDigit ∧ Text.digitsValue digits ≤ maxWord then
    some (Text.digitsValue digits)
  else none

/-- The value one step below a value. -/
def child? (v : Value) (name : String) : Option Value :=
  match v with
  | .object fields => some ((Table.get? fields name).getD .null)
  | .array items => (index? name).map fun i => items[i]?.getD .null
  | _ => some .null

/-- The value below a value. -/
def descend? (v : Value) : List String → Option Value
  | [] => some v
  | name :: rest => (child? v name).bind fun v => descend? v rest

/-- The value that a block of the scope gave a name to. -/
def Scope.named? (scope : Scope) (name : String) : Option Value :=
  match scope with
  | [] => none
  | b :: rest =>
    match b.named.lookup name with
    | some v => some v
    | none => named? rest name

/-- The named steps of a path. -/
def stepNames : List PathStep → List String
  | [] => []
  | .name s :: rest => s :: stepNames rest
  | _ :: rest => stepNames rest

/-- The loop variable that a path names, with the number of blocks up. -/
def Path.variable? (p : Path) : Option (Nat × String) :=
  match p.steps with
  | .mark :: rest =>
    match rest.dropWhile (· = .up) with
    | .name s :: _ => some ((rest.takeWhile (· = .up)).length, s)
    | _ => none
  | _ => none

/-- The value of the block so many levels up, or of the innermost one if there are not so many. -/
def Scope.baseAt (scope : Scope) (root : Value) (level : Nat) : Value :=
  match scope[level]?, scope.head? with
  | some b, _ => b.base
  | none, some b => b.base
  | none, none => root

/-- The value that a path leads to. -/
def Scope.resolve (scope : Scope) (root : Value) (p : Path) : Option Value :=
  match p.variable? with
  | some (level, name) =>
    some ((scope[level]?.bind fun b => Table.get? b.looping name).getD .null)
  | none =>
    let ups := (p.steps.takeWhile (· = .up)).length
    let below := p.steps.drop ups
    let outward := descend? (scope.baseAt root ups) (stepNames below)
    match below with
    | .name s :: rest =>
      match scope.named? s with
      | some v => descend? v (stepNames rest)
      | none => outward
    | .root :: rest => descend? root (stepNames rest)
    | _ => outward

end IncidentRelay.Template
