import IncidentRelay.Template.Expression

/-!
# Tags and text

A template is cut into text and tags. Text reaches up to the next two opening braces, unless a
backslash stands before them: one backslash makes the braces text, and of several the first is
dropped and the tag stays a tag. A tilde inside the braces asks for the removal of the blanks on
its side.
-/

namespace IncidentRelay.Template

/-- What a tag does. -/
inductive Tag
  | output (escaped : Bool) (call : Call)
  | openBlock (call : Call) (names : List String)
  /-- The other branch of a block, with its own helper when it is a chain. -/
  | otherwise (chain : Option (Call × List String))
  | close (name : String)
  | openDefinition (call : Call)
  | directive (call : Call)
  | openInclusion (call : Call)
  | inclusion (call : Call) (indent : List Char)
  | openVerbatim (call : Call) (names : List String)
  | closeVerbatim (name : String)
  | comment

/-- A piece of text, or a tag with its two tildes. -/
inductive Token
  | text (s : List Char)
  | tag (before after : Bool) (t : Tag)

/-- Two opening braces. -/
def openBraces : List Char := ['{', '{']

/-- Four opening braces. -/
def openVerbatim : List Char := ['{', '{', '{', '{']

/-- How many characters after a backslash it makes text of, when it is an escape: the braces right
after it, or the further backslashes before a tag. -/
def escapeLength? (rest : List Char) : Option Nat :=
  if openBraces.isPrefixOf rest then some (if openVerbatim.isPrefixOf rest then 4 else 2)
  else
    let n := (rest.takeWhile (· == '\\')).length
    if 0 < n ∧ openBraces.isPrefixOf (rest.drop n) then some n else none

/-- The text up to `stop` without the backslashes of escapes, and what is left. The first
`verbatim` characters are text whatever they are. -/
def rawText (stop : List Char) : (verbatim : Nat) → List Char → List Char × List Char
  | _, [] => ([], [])
  | k + 1, c :: rest =>
    let (text, rest) := rawText stop k rest
    (c :: text, rest)
  | 0, c :: rest =>
    if stop.isPrefixOf (c :: rest) then ([], c :: rest)
    else
      let escape := if c = '\\' then escapeLength? rest else none
      match escape with
      | some k => rawText stop k rest
      | none =>
        let (text, rest) := rawText stop 0 rest
        (c :: text, rest)

/-- The text after the first occurrence of `mark`. -/
def after? (mark : List Char) : List Char → Option (List Char)
  | [] => if mark = [] then some [] else none
  | c :: rest =>
    if mark.isPrefixOf (c :: rest) then some ((c :: rest).drop mark.length) else after? mark rest

/-- The text after a comment, from behind its exclamation mark. -/
def skipComment? (cs : List Char) : Option (List Char) :=
  let long := match skipSpace cs with
    | '-' :: '-' :: rest => after? ['-', '-', '}', '}'] rest
    | _ => none
  match long with
  | some rest => some rest
  | none => after? ['}', '}'] cs

/-- An optional tilde with blanks around it. -/
def tilde (cs : List Char) : Bool × List Char :=
  match skipSpace cs with
  | '~' :: rest => (true, skipSpace rest)
  | rest => (false, rest)

/-- The closing braces of a tag, with an optional tilde before them. -/
def closeBraces? (cs : List Char) : Option (Bool × List Char) :=
  match tilde cs with
  | (after, '}' :: '}' :: rest) => some (after, rest)
  | _ => none

/-- A block's helper with the names it gives. -/
def blockLine? (cs : List Char) : Option (Call × List String × List Char) :=
  (blockCall? cs).bind fun (c, rest) =>
    (blockNames? rest).map fun (names, rest) => (c, names, rest)

/-- The word or mark of the other branch of a block. What follows the word need not be apart from
it. -/
def elseMark? (cs : List Char) : Option (List Char) :=
  match cs with
  | '^' :: rest => some rest
  | 'e' :: 'l' :: 's' :: 'e' :: rest => some rest
  | _ => none

/-- The other branch of a block up to its closing braces. -/
def otherwise? (cs : List Char) : Option (Tag × Bool × List Char) :=
  (elseMark? cs).bind fun rest =>
    match closeBraces? rest with
    | some (after, rest) => some (.otherwise none, after, rest)
    | none => (blockLine? (skipSpace rest)).bind fun (c, names, rest) =>
        (closeBraces? rest).map fun (after, rest) => (.otherwise (some (c, names)), after, rest)

/-- The name in a closing tag. -/
def closingName? (cs : List Char) : Option (String × List Char) :=
  match pieceName? cs, cs with
  | some named, _ => some named
  | none, '@' :: _ => (path? cs).map fun (p, rest) => (p.text, rest)
  | none, _ => identifier? cs

/-- A tag that begins with a mark, from that mark up to the closing braces. -/
def marked? (cs : List Char) : Option (Tag × List Char) :=
  match cs with
  | '#' :: rest =>
    match skipSpace rest with
    | '*' :: rest => (blockLine? (skipSpace rest)).map fun (c, _, rest) => (.openDefinition c, rest)
    | '>' :: rest => (inclusionCall? (skipSpace rest)).map fun (c, rest) => (.openInclusion c, rest)
    | rest => (blockLine? rest).map fun (c, names, rest) => (.openBlock c names, rest)
  | '/' :: rest => (closingName? (skipSpace rest)).map fun (n, rest) => (.close n, rest)
  | '>' :: rest => (inclusionCall? (skipSpace rest)).map fun (c, rest) => (.inclusion c [], rest)
  | '*' :: rest => (blockLine? (skipSpace rest)).map fun (c, _, rest) => (.directive c, rest)
  | '&' :: rest => (outputCall? (skipSpace rest)).map fun (c, rest) => (.output false c, rest)
  | '{' :: rest =>
    (outputCall? (skipSpace rest)).bind fun (c, rest) =>
      (expect? '}' rest).map fun rest => (.output false c, rest)
  | _ => (outputCall? cs).map fun (c, rest) => (.output true c, rest)

/-- A tag, from behind its opening braces. -/
def tag? (cs : List Char) : Option (Token × List Char) :=
  match cs with
  | '!' :: rest => (skipComment? rest).map fun rest => (.tag false false .comment, rest)
  | _ =>
    let (before, cs) := tilde cs
    match otherwise? cs with
    | some (t, after, rest) => some (.tag before after t, rest)
    | none => (marked? cs).bind fun (t, rest) =>
        (closeBraces? rest).map fun (after, rest) => (.tag before after t, rest)

/-- Four closing braces, with an optional tilde before them. -/
def closeVerbatim? (cs : List Char) : Option (Bool × List Char) :=
  match tilde cs with
  | (after, '}' :: '}' :: '}' :: '}' :: rest) => some (after, rest)
  | _ => none

/-- A verbatim block with all that is in it, from behind its opening braces. -/
def verbatim? (cs : List Char) : Option (List Token × List Char) :=
  let (before, cs) := tilde cs
  (blockLine? cs).bind fun (c, names, rest) => (closeVerbatim? rest).bind fun (after, rest) =>
    let (text, rest) := rawText openVerbatim 0 rest
    let (before', rest) := tilde (rest.drop 4)
    (expect? '/' rest).bind fun rest => (identifier? (skipSpace rest)).bind fun (name, rest) =>
      (closeVerbatim? rest).map fun (after', rest) =>
        ([.tag before after (.openVerbatim c names), .text text,
          .tag before' after' (.closeVerbatim name)], rest)

/-- The tokens of a text. -/
def scan : (fuel : Nat) → List Char → Option (List Token)
  | 0, _ => none
  | fuel + 1, cs =>
    match rawText openBraces 0 cs with
    | (c :: text, rest) => (scan fuel rest).map (Token.text (c :: text) :: ·)
    | ([], []) => some []
    | ([], rest) =>
      if openVerbatim.isPrefixOf rest then
        (verbatim? (rest.drop 4)).bind fun (tokens, rest) => (scan fuel rest).map (tokens ++ ·)
      else (tag? (rest.drop 2)).bind fun (token, rest) => (scan fuel rest).map (token :: ·)

/-- The tokens of a template. -/
def tokens? (cs : List Char) : Option (List Token) := scan (cs.length + 1) cs

end IncidentRelay.Template
