import IncidentRelay.Template.Token
import IncidentRelay.Text.Blank

/-!
# Blanks around tags

Which blanks of the text between tags belong to the output. A tilde removes all blanks on its side.
A tag other than an output that has a line to itself takes that line's blanks and its line break
with it; an inclusion keeps the blanks before it, which indent what it includes.
-/

namespace IncidentRelay.Template

/-- A space or a tab. -/
def isIndent (c : Char) : Bool := c == ' ' || c == '\t'

/-- A line feed or a carriage return. -/
def isBreak (c : Char) : Bool := c == '\n' || c == '\r'

/-- The text without the line break that it begins with. -/
def dropBreak (cs : List Char) : List Char :=
  match cs with
  | '\n' :: rest => rest
  | '\r' :: '\n' :: rest => rest
  | _ => cs

/-- What the arrangement knows between two tokens. -/
structure Position where
  /-- Whether the last tag asked for the removal of the blanks after it. -/
  omitted : Bool := false
  /-- Whether the last tag had its line to itself. -/
  alone : Bool := false
  /-- Whether only blanks stand between the beginning of the line and this place. -/
  lineStart : Bool := true
  /-- The blanks right before this place. -/
  indent : List Char := []

/-- Whether the line holds nothing more in front of these tokens. -/
def lineEnds : List Token → Bool
  | [] => true
  | .text s :: rest =>
    match s.dropWhile isIndent with
    | c :: _ => isBreak c
    | [] => rest.isEmpty
  | .tag .. :: _ => false

/-- The part of a text that belongs to the output, as far as the tag before it decides. -/
def Position.keep (p : Position) (s : List Char) : List Char :=
  if p.omitted then if s.all Json.isSpace then [] else Text.trimLeft Text.isBlank s
  else if p.alone then dropBreak (s.dropWhile isIndent)
  else s

/-- The place after a text. -/
def Position.afterText (p : Position) (s : List Char) : Position :=
  let indent := (s.reverse.takeWhile isIndent).reverse
  { omitted := p.omitted
    alone := p.alone && p.omitted && s.all Json.isSpace
    lineStart := match s.reverse.dropWhile isIndent with
      | c :: _ => isBreak c
      | [] => p.lineStart
    indent }

/-- Whether a tag takes its line with it when it is alone on it. -/
def Tag.isOutput : Tag → Bool
  | .output .. => true
  | _ => false

/-- Whether a tag keeps the blanks before it. -/
def Tag.isInclusion : Tag → Bool
  | .inclusion .. => true
  | _ => false

/-- The tag with the blanks before it as its indentation. -/
def Tag.indented (indent : List Char) : Tag → Tag
  | .inclusion c _ => .inclusion c indent
  | t => t

/-- Takes characters from the end of the text that was arranged last. -/
def trimLast (p : Char → Bool) : List Token → List Token
  | .text s :: done => .text (Text.trimRight p s) :: done
  | done => done

/-- Arranges a tag: the tokens before it, last first, and the place after it. -/
def Position.place (p : Position) (done : List Token) (before after : Bool) (t : Tag)
    (rest : List Token) : List Token × Position :=
  let alone := p.lineStart && lineEnds rest
  let done := if before then trimLast Text.isBlank done else done
  let done := if alone && !t.isOutput && !t.isInclusion then trimLast isIndent done else done
  let omitted := match t with
    | .comment => p.omitted
    | _ => after
  (.tag before after (t.indented p.indent) :: done,
    { omitted, alone := if t.isOutput then p.alone else alone, lineStart := false })

/-- Arranges tokens after those that are done, last first. -/
def arrangeFrom (p : Position) (done : List Token) : List Token → List Token
  | [] => done.reverse
  | .text s :: rest =>
    let kept := p.keep s
    arrangeFrom (p.afterText s) (if kept = [] then done else .text kept :: done) rest
  | .tag before after t :: rest =>
    let (done, p) := p.place done before after t rest
    arrangeFrom p done rest

/-- The tokens with the blanks of the output alone. -/
def arrange (tokens : List Token) : List Token := arrangeFrom {} [] tokens

end IncidentRelay.Template
