import IncidentRelay.Json.Token

/-!
# Reading JSON

Tokens become a value with a stack of the arrays and objects that are open. Nesting beyond a limit
is refused, of two members with one name the later counts, and nothing may follow the value.
-/

namespace IncidentRelay.Json

/-- An array or object that is open, with what it holds already, last first. -/
inductive Frame
  | items (done : List Value)
  | members (done : List (String × Value))
  /-- An object whose next member has this name. -/
  | named (name : String) (done : List (String × Value))

/-- What the reader expects next. -/
inductive Expect
  | value
  /-- A value, or the end of the array just opened. -/
  | valueOrClose
  /-- The name of a member. -/
  | name
  /-- The name of a member, or the end of the object just opened. -/
  | nameOrClose
  | colon
  /-- A comma, or the end of what is open; nothing when nothing is open. -/
  | after

/-- The state of the reader: what it expects, what is open, and the value once it is complete. -/
structure Reading where
  expect : Expect := .value
  opened : List Frame := []
  value : Value := .null

/-- Puts a complete value where it belongs. -/
def Reading.put (r : Reading) (v : Value) : Option Reading :=
  match r.opened with
  | [] => some { expect := .after, opened := [], value := v }
  | .items done :: more => some { expect := .after, opened := .items (v :: done) :: more }
  | .named k done :: more =>
    some { expect := .after, opened := .members ((k, v) :: done) :: more }
  | .members _ :: _ => none

/-- Ends the innermost array or object. -/
def Reading.close (r : Reading) (brace : Bool) : Option Reading :=
  match r.opened, brace with
  | .items done :: more, false => { r with opened := more }.put (.array done.reverse)
  | .members done :: more, true =>
    { r with opened := more }.put (.object (Table.ofList done.reverse))
  | _, _ => none

/-- Reads one token, nesting at most `limit` deep. -/
def Reading.step (limit : Nat) (r : Reading) (t : Token) : Option Reading :=
  let open_ (f : Frame) (e : Expect) : Option Reading :=
    if r.opened.length < limit then some { expect := e, opened := f :: r.opened } else none
  let value : Option Reading :=
    match t with
    | .null => r.put .null
    | .bool b => r.put (.bool b)
    | .number n => r.put (.number n)
    | .string s => r.put (.string s)
    | .openBracket => open_ (.items []) .valueOrClose
    | .openBrace => open_ (.members []) .nameOrClose
    | _ => none
  let name : Option Reading :=
    match t, r.opened with
    | .string k, .members done :: more =>
      some { r with expect := .colon, opened := .named k done :: more }
    | _, _ => none
  match r.expect with
  | .value => value
  | .valueOrClose =>
    match t with
    | .closeBracket => r.close false
    | _ => value
  | .name => name
  | .nameOrClose =>
    match t with
    | .closeBrace => r.close true
    | _ => name
  | .colon =>
    match t with
    | .colon => some { r with expect := .value }
    | _ => none
  | .after =>
    match t, r.opened with
    | .comma, .items _ :: _ => some { r with expect := .value }
    | .comma, .members _ :: _ => some { r with expect := .name }
    | .closeBracket, .items _ :: _ => r.close false
    | .closeBrace, .members _ :: _ => r.close true
    | _, _ => none

/-- Reads tokens from a state. -/
def readFrom (limit : Nat) (r : Reading) : List Token → Option Value
  | [] =>
    match r.expect, r.opened with
    | .after, [] => some r.value
    | _, _ => none
  | t :: rest =>
    match r.step limit t with
    | none => none
    | some r => readFrom limit r rest

/-- How many arrays and objects may be open at once. -/
def nestingLimit : Nat := 127

/-- The value of a text. -/
def read (text : List Char) : Option Value :=
  match scan text with
  | none => none
  | some tokens => readFrom nestingLimit {} tokens

end IncidentRelay.Json
