import IncidentRelay.Template.Layout

/-!
# The tree of a template

Tags open and close blocks. The builder holds the blocks that are open, each with the elements
before it, and hands over the elements of the outermost level once all are closed. A tag that
closes nothing, or something else than what is open, makes the whole template ill-formed.
-/

namespace IncidentRelay.Template

/-- What a block is. -/
inductive BlockKind
  | helper
  | verbatim
  | definition
  | inclusion
  deriving DecidableEq

/-- A block that is open. -/
structure Open where
  kind : BlockKind
  /-- The name that closes it. -/
  name : String
  /-- The helper of the present branch. -/
  call : Call
  names : List String
  /-- The branches before the present one, last first. -/
  branches : List (Call × List String × List Element) := []
  /-- Whether the present branch is the last, which has no helper. -/
  last : Bool := false
  /-- The elements before the block, last first. -/
  before : List Element

/-- The elements of the innermost open block, last first, and the open blocks. -/
structure Building where
  done : List Element := []
  opened : List Open := []

/-- Opens a block. -/
def Building.open_ (b : Building) (kind : BlockKind) (call : Call) (names : List String) :
    Building :=
  { done := []
    opened := { kind, name := call.callee.closingName, call, names, before := b.done } :: b.opened }

/-- The block of a chain of branches, last first, that ends in other elements. -/
def chain (branches : List (Call × List String × List Element)) (inverse : List Element) :
    List Element :=
  branches.foldl (fun inverse (call, names, body) => [.block call names body inverse]) inverse

/-- The elements that a closed block stands for. -/
def Open.elements (o : Open) (body : List Element) : List Element :=
  match o.kind with
  | .helper | .verbatim =>
    if o.last then chain o.branches body else chain ((o.call, o.names, body) :: o.branches) []
  | .definition => [.definition o.call body]
  | .inclusion => [.wrapping o.call body]

/-- Closes the innermost block. -/
def Building.close (b : Building) (verbatim : Bool) (name : String) : Option Building :=
  match b.opened with
  | [] => none
  | o :: opened =>
    if o.name = name ∧ (o.kind = .verbatim ↔ verbatim) then
      some { done := (o.elements b.done.reverse).reverse ++ o.before, opened }
    else none

/-- Goes on to another branch of the innermost block. -/
def Building.branch (b : Building) (next : Option (Call × List String)) : Option Building :=
  match b.opened with
  | [] => none
  | o :: opened =>
    if o.kind ≠ .helper ∨ o.last then none
    else
      let o := { o with branches := (o.call, o.names, b.done.reverse) :: o.branches }
      let o := match next with
        | none => { o with last := true }
        | some (call, names) => { o with call, names }
      some { done := [], opened := o :: opened }

/-- Adds an element to the innermost block. -/
def Building.add (b : Building) (e : Element) : Building := { b with done := e :: b.done }

/-- Takes one token. -/
def Building.step (b : Building) : Token → Option Building
  | .text s => some (b.add (.text s))
  | .tag _ _ t =>
    match t with
    | .comment => some b
    | .output escaped c => some (b.add (.output escaped c))
    | .directive c => some (b.add (.directive c))
    | .inclusion c indent => some (b.add (.inclusion c indent))
    | .openBlock c names => some (b.open_ .helper c names)
    | .openVerbatim c names => some (b.open_ .verbatim c names)
    | .openDefinition c => some (b.open_ .definition c [])
    | .openInclusion c => some (b.open_ .inclusion c [])
    | .otherwise next => b.branch next
    | .close name => b.close false name
    | .closeVerbatim name => b.close true name

/-- Takes tokens. -/
def build (b : Building) : List Token → Option (List Element)
  | [] => if b.opened.isEmpty then some b.done.reverse else none
  | t :: rest =>
    match b.step t with
    | none => none
    | some b => build b rest

/-- The elements of a template's text. -/
def parse (text : List Char) : Option (List Element) :=
  match tokens? text with
  | none => none
  | some tokens => build {} (arrange tokens)

end IncidentRelay.Template
