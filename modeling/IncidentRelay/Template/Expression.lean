import IncidentRelay.Json.Reader
import IncidentRelay.Template.Element
import IncidentRelay.Text.Ascii

/-!
# Expressions in tags

What may stand between the braces of a tag: literals, paths, and helper calls with arguments and
options. Every reader takes characters from the front of the text and returns what is left. A
choice once made is never taken back: a text that begins as a number is read as a number or not at
all.
-/

namespace IncidentRelay.Template

open Json (Value)

/-- The characters of names: letters, digits, three marks, and everything beyond ASCII. -/
def isSymbol (c : Char) : Bool :=
  Text.isAlphanumeric c || c == '_' || c == '-' || c == '$' || 0x80 ≤ c.toNat

/-- Skips blanks and line breaks. -/
def skipSpace (cs : List Char) : List Char := cs.dropWhile Json.isSpace

/-- A character at the front of a text, with blanks before it. -/
def expect? (c : Char) (cs : List Char) : Option (List Char) :=
  match skipSpace cs with
  | d :: rest => if d = c then some rest else none
  | [] => none

/-- A word at the front of a text that no symbol continues. -/
def keyword? (word : List Char) (cs : List Char) : Option (List Char) :=
  if word.isPrefixOf cs then
    match cs.drop word.length with
    | c :: rest => if isSymbol c then none else some (c :: rest)
    | [] => some []
  else none

/-- A name. -/
def identifier? (cs : List Char) : Option (String × List Char) :=
  let name := cs.takeWhile isSymbol
  if name = [] then none else some (String.ofList name, cs.dropWhile isSymbol)

/-! ### Literals -/

/-- The text after a quoted string, from behind its opening quote. -/
def skipQuoted (quote : Char) : List Char → Option (List Char)
  | [] => none
  | '\\' :: _ :: rest => skipQuoted quote rest
  | c :: rest => if c = quote then some rest else skipQuoted quote rest

/-- The text after a number: digits with an optional minus, point and decimal exponent, which no
symbol continues. -/
def skipNumber (cs : List Char) : Option (List Char) :=
  let cs := match cs with
    | '-' :: rest => rest
    | _ => cs
  if (cs.takeWhile Text.isDigit).isEmpty then none
  else
    let cs := cs.dropWhile Text.isDigit
    let cs := match cs with
      | '.' :: rest => rest.dropWhile Text.isDigit
      | _ => cs
    let cs := match cs with
      | 'E' :: rest =>
        let digits := match rest with
          | '-' :: digits => digits
          | digits => digits
        if (digits.takeWhile Text.isDigit).isEmpty then cs else digits.dropWhile Text.isDigit
      | _ => cs
    match cs with
    | c :: _ => if isSymbol c then none else some cs
    | [] => some cs

/-- The text after a literal. -/
def skipLiteral : (fuel : Nat) → List Char → Option (List Char)
  | 0, _ => none
  | fuel + 1, cs =>
    match cs with
    | '"' :: rest => skipQuoted '"' rest
    | '\'' :: rest => skipQuoted '\'' rest
    | '[' :: rest =>
      match (expect? ']' rest, skipLiteral fuel (skipSpace rest)) with
      | (some rest, _) => some rest
      | (none, some rest) => items fuel rest
      | (none, none) => none
    | '{' :: rest =>
      match expect? '}' rest with
      | some rest => some rest
      | none => member fuel rest
    | _ =>
      match keyword? ['n', 'u', 'l', 'l'] cs, keyword? ['t', 'r', 'u', 'e'] cs,
          keyword? ['f', 'a', 'l', 's', 'e'] cs with
      | some rest, _, _ | _, some rest, _ | _, _, some rest => some rest
      | none, none, none => skipNumber cs
where
  /-- The further items of an array. -/
  items : (fuel : Nat) → List Char → Option (List Char)
    | 0, _ => none
    | fuel + 1, cs =>
      match expect? ']' cs with
      | some rest => some rest
      | none => (expect? ',' cs).bind fun rest =>
          (skipLiteral fuel (skipSpace rest)).bind (items fuel)
  /-- A member of an object and those after it. -/
  member : (fuel : Nat) → List Char → Option (List Char)
    | 0, _ => none
    | fuel + 1, cs =>
      match skipSpace cs with
      | '"' :: rest => (skipQuoted '"' rest).bind fun rest => (expect? ':' rest).bind fun rest =>
          (skipLiteral fuel (skipSpace rest)).bind fun rest =>
            match expect? '}' rest with
            | some rest => some rest
            | none => (expect? ',' rest).bind (member fuel)
      | _ => none

/-- The text of a string in single quotes as a string in double quotes. -/
def requoted : List Char → List Char
  | [] => []
  | '\\' :: '\'' :: rest => '\'' :: requoted rest
  | '\\' :: c :: rest => '\\' :: c :: requoted rest
  | '"' :: rest => '\\' :: '"' :: requoted rest
  | c :: rest => c :: requoted rest

/-- The value of a literal's text. -/
def literalValue? (cs : List Char) : Option Value :=
  match cs with
  | '\'' :: rest => Json.read ('"' :: requoted rest.dropLast ++ ['"'])
  | _ => Json.read cs

/-! ### Paths -/

/-- What separates the steps of a path. -/
def isSeparator (c : Char) : Bool := c == '/' || c == '.'

/-- A named step: symbols, or anything in brackets. -/
def pathName? (cs : List Char) : Option (String × List Char) :=
  match cs with
  | '[' :: rest =>
    match rest.dropWhile (· != ']') with
    | _ :: after => some (String.ofList (rest.takeWhile (· != ']')), after)
    | [] => none
  | _ => identifier? cs

/-- The word `this` is no step. -/
def namedStep (name : String) : List PathStep := if name = "this" then [] else [.name name]

/-- The steps that follow the first named one. -/
def furtherSteps : (fuel : Nat) → List Char → List PathStep × List Char
  | 0, cs => ([], cs)
  | fuel + 1, cs =>
    match cs with
    | c :: rest =>
      if isSeparator c then
        match pathName? rest with
        | some (name, rest) =>
          let (steps, rest) := furtherSteps fuel rest
          (namedStep name ++ steps, rest)
        | none => ([], cs)
      else ([], cs)
    | [] => ([], [])

/-- The steps up at the front of a path. -/
def stepsUp : List Char → List PathStep × List Char
  | '.' :: '.' :: c :: rest =>
    if isSeparator c then
      let (steps, rest) := stepsUp rest
      (.up :: steps, rest)
    else ([], '.' :: '.' :: c :: rest)
  | cs => ([], cs)

/-- A word with a separator after it. -/
def separated? (word : List Char) (cs : List Char) : Option (List Char) :=
  if word.isPrefixOf cs then
    match cs.drop word.length with
    | c :: rest => if isSeparator c then some rest else none
    | [] => none
  else none

/-- A path: an optional `this` or dot, an optional root, an optional mark, steps up, and names. -/
def path? (cs : List Char) : Option (Path × List Char) :=
  let inner := match separated? ['t', 'h', 'i', 's'] cs, cs with
    | some rest, _ => rest
    | none, '.' :: '/' :: rest => rest
    | none, _ => cs
  let (root, inner) := match separated? ['@', 'r', 'o', 'o', 't'] inner with
    | some rest => ([PathStep.root], rest)
    | none => ([], inner)
  let (mark, inner) := match inner with
    | '@' :: rest => ([PathStep.mark], rest)
    | _ => ([], inner)
  let (ups, inner) := stepsUp inner
  (pathName? inner).map fun (name, inner) =>
    let (more, rest) := furtherSteps inner.length inner
    ({ text := String.ofList (cs.take (cs.length - rest.length))
       steps := root ++ mark ++ ups ++ namedStep name ++ more }, rest)

/-! ### Calls -/

/-- Whether a word stands here that no symbol continues, even after blanks. -/
def startsWord (word cs : List Char) : Bool :=
  word.isPrefixOf cs && !((skipSpace (cs.drop word.length)).head?.any isSymbol)

/-- The words that are no operands: what names a block's values, and the other branch of a block. A
word with a further operand behind it is one. -/
def isReserved (cs : List Char) : Bool :=
  startsWord ['a', 's'] cs || startsWord ['e', 'l', 's', 'e'] cs

mutual

/-- An operand: a literal, a path, or a call in parentheses. -/
def operand? : (fuel : Nat) → List Char → Option (Operand × List Char)
  | 0, _ => none
  | fuel + 1, cs =>
    if isReserved cs then none
    else match skipLiteral (cs.length + 1) cs with
      | some rest =>
        (literalValue? (cs.take (cs.length - rest.length))).map fun v => (.literal v, rest)
      | none => name? fuel cs

/-- A path, or a call in parentheses. -/
def name? : (fuel : Nat) → List Char → Option (Operand × List Char)
  | 0, _ => none
  | fuel + 1, cs =>
    match cs with
    | '(' :: rest =>
      (call? fuel (skipSpace rest)).bind fun (c, rest) =>
        (expect? ')' rest).map fun rest => (c, rest)
    | _ => (path? cs).map fun (p, rest) => (.path p, rest)

/-- What stands in parentheses: a helper with what it is given, or a path to its name. -/
def call? : (fuel : Nat) → List Char → Option (Operand × List Char)
  | 0, _ => none
  | fuel + 1, cs =>
    let whole := (identifier? cs).bind fun (name, rest) =>
      match given? fuel rest with
      | ([], [], _) => none
      | (arguments, options, rest) => some (.call (.word name) arguments options, rest)
    match whole with
    | some r => some r
    | none => (path? cs).map fun (p, rest) => (.call (.path p) [] [], rest)

/-- The arguments and options that stand here, as many as there are. -/
def given? : (fuel : Nat) → List Char → List Operand × List (String × Operand) × List Char
  | 0, cs => ([], [], cs)
  | fuel + 1, cs =>
    let start := skipSpace cs
    let option := (identifier? start).bind fun (name, rest) =>
      (expect? '=' rest).bind fun rest =>
        (operand? fuel (skipSpace rest)).map fun (o, rest) => (name, o, rest)
    match option with
    | some (name, o, rest) =>
      let (arguments, options, rest) := given? fuel rest
      (arguments, (name, o) :: options, rest)
    | none =>
      match operand? fuel start with
      | some (o, rest) =>
        let (arguments, options, rest) := given? fuel rest
        (o :: arguments, options, rest)
      | none => ([], [], cs)

end

/-- Fuel that suffices for a text: every call of a reader either takes a character or is one of
three that lead to one that does. -/
def fuelFor (cs : List Char) : Nat := 4 * cs.length + 4

/-- What a tag outputs: a helper with what it is given, or a single name. -/
def outputCall? (cs : List Char) : Option (Call × List Char) :=
  let whole := (identifier? cs).bind fun (name, rest) =>
    match given? (fuelFor cs) rest with
    | ([], [], _) => none
    | (arguments, options, rest) => some ({ callee := .word name, arguments, options }, rest)
  match whole with
  | some r => some r
  | none => (name? (fuelFor cs) cs).map fun (o, rest) => ({ callee := o }, rest)

/-- The helper that a block calls. -/
def blockCall? (cs : List Char) : Option (Call × List Char) :=
  (identifier? cs).map fun (name, rest) =>
    let (arguments, options, rest) := given? (fuelFor cs) rest
    ({ callee := .word name, arguments, options }, rest)

/-- The names that a block gives to its values, one or two between bars, or none at all. -/
def blockNames? (cs : List Char) : Option (List String × List Char) :=
  match keyword? ['a', 's'] (skipSpace cs) with
  | none => some ([], cs)
  | some rest =>
    (expect? '|' rest).bind fun rest => (identifier? (skipSpace rest)).bind fun (first, rest) =>
      match identifier? (skipSpace rest) with
      | none => (expect? '|' rest).map fun rest => ([first], rest)
      | some (second, rest) => (expect? '|' rest).map fun rest => ([first, second], rest)

/-- The characters of the names of pieces. -/
def isPieceSymbol (c : Char) : Bool := (isSymbol c && c != '$') || isSeparator c

/-- How long a name in single quotes goes on behind its opening quote. -/
def quotedLength? : List Char → Option Nat
  | [] => none
  | '\\' :: '\'' :: rest => (quotedLength? rest).map (· + 2)
  | '\'' :: _ => some 1
  | _ :: rest => (quotedLength? rest).map (· + 1)

/-- The name of a piece, in symbols or in single quotes, which belong to the name. -/
def pieceName? (cs : List Char) : Option (String × List Char) :=
  match cs with
  | '\'' :: rest =>
    match quotedLength? rest with
    | some (n + 2) => some (String.ofList (cs.take (n + 3)), cs.drop (n + 3))
    | _ => none
  | _ =>
    let name := cs.takeWhile isPieceSymbol
    if name = [] then none else some (String.ofList name, cs.dropWhile isPieceSymbol)

/-- The name of a piece to include, with what it is given. -/
def inclusionCall? (cs : List Char) : Option (Call × List Char) :=
  let callee := match pieceName? cs with
    | some (name, rest) => some (Operand.word name, rest)
    | none => name? (fuelFor cs) cs
  callee.map fun (callee, rest) =>
    let (arguments, options, rest) := given? (fuelFor cs) rest
    ({ callee, arguments, options }, rest)

end IncidentRelay.Template
