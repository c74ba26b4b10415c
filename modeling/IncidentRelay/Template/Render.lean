import IncidentRelay.Template.Helper
import IncidentRelay.Template.Scope

/-!
# Rendering

What a template shows for a content. Text stands for itself; a path shows its value, escaped if the
output is HTML; helpers compute values, and blocks choose and repeat what is in them. Rendering
fails when a helper misses an argument or gets one of another type, and when a name is unknown.

Included pieces may include others. How deep they may is the only bound that rendering needs: all
else follows the template.

## Main statements

* `renderAll_nil`: nothing is shown for no elements.
-/

namespace IncidentRelay.Template

open Json (Value)

/-- The pieces that were defined so far. -/
abbrev Pieces := Table (List Element)

/-- What rendering shows, with the pieces defined after it. -/
abbrev Shown := Option (List Char × Pieces)

/-- Renders elements in a scope, with the blocks handed to the pieces around them. -/
abbrev Renderer := (handed : List (List Element)) → Scope → Pieces → List Element → Shown

/-- A character in HTML. -/
def escapeHtml (c : Char) : List Char :=
  match c with
  | '<' => ['&', 'l', 't', ';']
  | '>' => ['&', 'g', 't', ';']
  | '"' => ['&', 'q', 'u', 'o', 't', ';']
  | '&' => ['&', 'a', 'm', 'p', ';']
  | '\'' => ['&', '#', 'x', '2', '7', ';']
  | '\x60' => ['&', '#', 'x', '6', '0', ';']
  | '=' => ['&', '#', 'x', '3', 'D', ';']
  | c => [c]

/-! ### Values -/

/-- What a helper call in parentheses stands for. A block helper there shows nothing. -/
def nestedValue? (name : String) (args : List Value) (options : List (String × Value)) :
    Option Value :=
  match name with
  | "if" | "unless" | "each" | "with" => args.head?.map fun _ => .string ""
  | "raw" => some (.string "")
  | "log" =>
    if isLogLevel (((options.lookup "level").bind (·.asString?)).getD "info") then
      some (.string "")
    else none
  | _ => helperValue? name args

mutual

/-- The value of an operand. -/
def Operand.value? (scope : Scope) (root : Value) : Operand → Option Value
  | .literal v => some v
  | .path p => scope.resolve root p
  | .word _ => some .null
  | .call callee arguments options =>
    match Operand.helperName? scope root callee, Operand.values? scope root arguments,
        Operand.optionValues? scope root options with
    | some name, some args, some options => nestedValue? name args options
    | _, _, _ => none

/-- The name that an operand gives to a helper. -/
def Operand.helperName? (scope : Scope) (root : Value) : Operand → Option String
  | .literal v => some (String.ofList (plainText v))
  | .path p => some p.text
  | .word name => some name
  | .call callee arguments options =>
    match Operand.helperName? scope root callee, Operand.values? scope root arguments,
        Operand.optionValues? scope root options with
    | some name, some args, some options =>
      (nestedValue? name args options).map fun v => String.ofList (plainText v)
    | _, _, _ => none

/-- The values of arguments. -/
def Operand.values? (scope : Scope) (root : Value) : List Operand → Option (List Value)
  | [] => some []
  | o :: rest =>
    match Operand.value? scope root o, Operand.values? scope root rest with
    | some v, some vs => some (v :: vs)
    | _, _ => none

/-- The values of options. -/
def Operand.optionValues? (scope : Scope) (root : Value) :
    List (String × Operand) → Option (List (String × Value))
  | [] => some []
  | (k, o) :: rest =>
    match Operand.value? scope root o, Operand.optionValues? scope root rest with
    | some v, some vs => some ((k, v) :: vs)
    | _, _ => none

end

/-- A call whose parts are known. -/
structure Called where
  name : String
  args : List Value
  options : List (String × Value)

/-- The parts of a call. -/
def Call.called? (scope : Scope) (root : Value) (c : Call) : Option Called :=
  match c.callee.helperName? scope root, Operand.values? scope root c.arguments,
      Operand.optionValues? scope root c.options with
  | some name, some args, some options => some { name, args, options }
  | _, _, _ => none

/-- The names of all helpers. -/
def helperNames : List String :=
  ["if", "unless", "each", "with", "raw", "log"] ++ valueHelpers

/-- Whether a call is a lone name, which can name a value. -/
def Call.isLone (c : Call) : Bool := c.arguments.isEmpty && c.options.isEmpty

/-- The value that an output tag shows. -/
def Call.output? (scope : Scope) (root : Value) (c : Call) : Option Value :=
  (c.called? scope root).bind fun k =>
    if c.isLone && !helperNames.contains k.name then c.callee.value? scope root
    else nestedValue? k.name k.args k.options

/-! ### Blocks -/

/-- What a block does with what is in it. -/
inductive Choice
  /-- Shows its body in each of these blocks. -/
  | body (blocks : List Block)
  /-- Shows its body in the scope around it. -/
  | bodyHere
  | inverse
  /-- Shows a value in the place of its body. -/
  | value (v : Value)

/-- The names of a block for a value and its key. -/
def givenNames (names : List String) (value : Value) (key : Option Value) :
    List (String × Value) :=
  match names, key with
  | [n], _ => [(n, value)]
  | [n, k], some key => [(n, value), (k, key)]
  | _, _ => []

/-- The blocks of a loop over values with their keys, the first of them at index `i`. -/
def loopBlocks (names : List String) (keyed : Bool) (count : Nat) :
    (i : Nat) → List (Value × Value) → List Block
  | _, [] => []
  | i, (key, v) :: rest =>
    let position : List (String × Value) :=
      [("first", .bool (i = 0)), ("index", .nat i), ("last", .bool (i + 1 = count))]
    let looping := if keyed then Table.insert position "key" key else position
    { base := v, named := givenNames names v (some key), looping }
      :: loopBlocks names keyed count (i + 1) rest

/-- The keys of an array's items. -/
def indexed : (i : Nat) → List Value → List (Value × Value)
  | _, [] => []
  | i, v :: rest => (.nat i, v) :: indexed (i + 1) rest

/-- What a block helper chooses. -/
def choose? (k : Called) (names : List String) : Option Choice :=
  match k.name with
  | "if" | "unless" =>
    k.args.head?.map fun v =>
      let zero := ((k.options.lookup "includeZero").bind (·.asBool?)).getD false
      if truthy zero v == (k.name == "if") then .bodyHere else .inverse
  | "each" =>
    k.args.head?.map fun
      | .array (v :: vs) => .body (loopBlocks names false (vs.length + 1) 0 (indexed 0 (v :: vs)))
      | .object (m :: ms) =>
        .body (loopBlocks names true (ms.length + 1) 0
          ((m :: ms).map fun (key, v) => (.string key, v)))
      | _ => .inverse
  | "with" =>
    k.args.head?.map fun v =>
      if truthy false v then .body [{ base := v, named := givenNames names v none }] else .inverse
  | "raw" => some .bodyHere
  | _ => (nestedValue? k.name k.args k.options).map .value

/-- Shows one thing after another. -/
def inTurn {α : Type} (show_ : α → Pieces → Shown) (pieces : Pieces) : List α → Shown
  | [] => some ([], pieces)
  | a :: rest =>
    (show_ a pieces).bind fun (text, pieces) =>
      (inTurn show_ pieces rest).map fun (more, pieces) => (text ++ more, pieces)

/-! ### Pieces -/

/-- The text with every line after the first indented. -/
def indentLines (indent : List Char) : List Char → List Char
  | [] => []
  | ['\n'] => ['\n']
  | '\n' :: c :: rest => '\n' :: (indent ++ indentLines indent (c :: rest))
  | c :: rest => c :: indentLines indent rest

/-- The name of the block that was handed to a piece. -/
def handedBlock : String := "@partial-block"

/-- The name of the whole template, which cannot include itself. -/
def wholeTemplate : String := "message"

/-- The value that a piece starts from when options are given: the members of an object and the
options over them. -/
def withOptions (base : Value) (options : List (String × Value)) : Value :=
  let fields := match base with
    | .object fields => fields
    | _ => []
  .object (options.foldl (fun fs (k, v) => Table.insert fs k v) fields)

/-- The scope that a piece is rendered in. -/
def pieceScope (scope : Scope) (root : Value) (c : Call) (k : Called) : Scope :=
  match k.options, c.arguments, k.args with
  | [], .path _ :: _, v :: _ => if v = .null then scope else [{ base := v }]
  | [], _, _ => scope
  | options, _, v :: _ => [{ base := withOptions v options }]
  | options, _, [] => [{ base := withOptions (scope.baseAt root 0) options }]

/-- Renders a named piece, which may be the block handed to the one around it. -/
def renderPiece (render : Renderer) (handed : List (List Element)) (scope : Scope)
    (pieces : Pieces) (own : Option (List Element)) (name : String) : Option (List Char) :=
  let inner := match own with
    | some body => body :: handed
    | none => handed
  if name = handedBlock then
    match handed, own with
    | body :: outer, _ => (render outer scope pieces body).map (·.1)
    | [], some body => (render inner scope pieces body).map (·.1)
    | [], none => none
  else if name = wholeTemplate then none
  else
    match Table.get? pieces name, own with
    | some body, _ => (render inner scope pieces body).map (·.1)
    | none, some body => (render inner scope pieces body).map (·.1)
    | none, none => none

/-- The piece that a definition names. -/
def definedName? (k : Called) : Option String :=
  if k.name = "inline" then textArgument? k.args else none

/-- Defines the pieces that a block handed to a piece defines at its top. -/
def defineAll (scope : Scope) (root : Value) (pieces : Pieces) : List Element → Option Pieces
  | [] => some pieces
  | .definition c body :: rest =>
    ((c.called? scope root).bind definedName?).bind fun name =>
      defineAll scope root (Table.insert pieces name body) rest
  | .directive _ :: _ => none
  | _ :: rest => defineAll scope root pieces rest

/-! ### Elements -/

/-- What stays the same throughout a template. -/
structure Surroundings where
  /-- Whether values are escaped for HTML. -/
  html : Bool
  root : Value
  /-- Renders included pieces. -/
  render : Renderer

/-- A value as it is shown. -/
def Surroundings.present (s : Surroundings) (escaped : Bool) (v : Value) : List Char :=
  if s.html && escaped then (plainText v).flatMap escapeHtml else plainText v

mutual

/-- Renders an element. -/
def Element.render (s : Surroundings) (handed : List (List Element)) (scope : Scope)
    (pieces : Pieces) : Element → Shown
  | .text t => some (t, pieces)
  | .output escaped c =>
    (c.output? scope s.root).map fun v => (s.present escaped v, pieces)
  | .block c names body inverse =>
    match (c.called? scope s.root).bind (choose? · names) with
    | none => none
    | some (.value v) => some (s.present true v, pieces)
    | some .bodyHere => renderAll s handed scope pieces body
    | some .inverse => renderAll s handed scope pieces inverse
    | some (.body blocks) =>
      inTurn (fun b pieces => renderAll s handed (b :: scope) pieces body) pieces blocks
  | .definition c body =>
    ((c.called? scope s.root).bind definedName?).map fun name =>
      ([], Table.insert pieces name body)
  | .directive _ => none
  | .inclusion c indent =>
    (c.called? scope s.root).bind fun k =>
      (renderPiece s.render handed (pieceScope scope s.root c k) pieces none k.name).map fun text =>
        (indentLines indent text, pieces)
  | .wrapping c body =>
    (c.called? scope s.root).bind fun k => (defineAll scope s.root pieces body).bind fun pieces =>
      (renderPiece s.render handed (pieceScope scope s.root c k) pieces (some body) k.name).map
        fun text => (text, pieces)

/-- Renders elements one after the other. -/
def renderAll (s : Surroundings) (handed : List (List Element)) (scope : Scope)
    (pieces : Pieces) : List Element → Shown
  | [] => some ([], pieces)
  | e :: rest =>
    match Element.render s handed scope pieces e with
    | none => none
    | some (text, pieces) =>
      (renderAll s handed scope pieces rest).map fun (more, pieces) => (text ++ more, pieces)

end

/-- Renders elements with included pieces nested at most so deep. -/
def renderWithin (html : Bool) (root : Value) : (depth : Nat) → Renderer
  | 0, _, _, _, _ => none
  | depth + 1, handed, scope, pieces, elements =>
    renderAll { html, root, render := renderWithin html root depth } handed scope pieces elements

theorem renderAll_nil (s : Surroundings) (handed : List (List Element)) (scope : Scope)
    (pieces : Pieces) : renderAll s handed scope pieces [] = some ([], pieces) := by
  simp only [renderAll]

end IncidentRelay.Template
