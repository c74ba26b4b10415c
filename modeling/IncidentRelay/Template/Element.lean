import IncidentRelay.Json.Value

/-!
# Elements of a message template

A template is text with tags in it. A tag outputs a value, calls a helper, opens and closes a
block, or defines and includes a named piece. This module holds what a template is once its tags
are read: a list of elements, in which a block holds the elements between its tags.
-/

namespace IncidentRelay.Template

open Json (Value)

/-- A step of a path. -/
inductive PathStep
  /-- To the whole content, written `@root`. -/
  | root
  /-- The mark `@` of a loop variable. -/
  | mark
  /-- To the enclosing block, written with two dots. -/
  | up
  | name (s : String)
  deriving DecidableEq

/-- A path to a value, with the text that it was read from. -/
structure Path where
  text : String
  steps : List PathStep
  deriving DecidableEq

/-- What stands for a value in a tag. -/
inductive Operand
  | literal (value : Value)
  | path (path : Path)
  /-- A bare name in the place of a helper. -/
  | word (name : String)
  /-- A helper call in parentheses. -/
  | call (callee : Operand) (arguments : List Operand) (options : List (String × Operand))

/-- What a tag calls, or outputs when it has no arguments. -/
structure Call where
  callee : Operand
  arguments : List Operand := []
  options : List (String × Operand) := []

/-- A piece of a template. -/
inductive Element
  | text (s : List Char)
  | output (escaped : Bool) (call : Call)
  /-- A block with the names it gives to its values, and what stands in its place when it does not
  apply. -/
  | block (call : Call) (names : List String) (body inverse : List Element)
  /-- A block that defines a named piece. -/
  | definition (call : Call) (body : List Element)
  /-- A directive without a block. -/
  | directive (call : Call)
  /-- Includes a named piece, whose lines after the first are indented. -/
  | inclusion (call : Call) (indent : List Char)
  /-- Includes a named piece and hands it a block. -/
  | wrapping (call : Call) (body : List Element)

/-- The name that a tag has to be closed with. -/
def Operand.closingName : Operand → String
  | .word name => name
  | .path p => p.text
  | _ => ""

end IncidentRelay.Template
