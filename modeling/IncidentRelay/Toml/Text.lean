import IncidentRelay.Text.Ascii

/-!
# Blanks, comments and strings of TOML

The pieces of a TOML document below its values. Every reader takes characters from the front of
the text and returns what is left, or nothing when the text is not well-formed.
-/

namespace IncidentRelay.Toml

/-- A space or a tab. -/
def isBlank (c : Char) : Bool := c == ' ' || c == '\t'

/-- Control characters, which stand nowhere in a document but for the tab. -/
def isControl (c : Char) : Bool := (c.toNat < 32 && c != '\t') || c.toNat == 127

/-- Skips spaces and tabs. -/
def skipBlanks (cs : List Char) : List Char := cs.dropWhile isBlank

/-- Takes one line break. -/
def newline? : List Char → Option (List Char)
  | '\n' :: rest => some rest
  | '\r' :: '\n' :: rest => some rest
  | _ => none

/-- Skips a comment up to its line break, if one begins here. -/
def skipComment (cs : List Char) : Option (List Char) :=
  match cs with
  | '#' :: rest =>
    let rest := rest.dropWhile fun c => !isControl c
    match rest with
    | [] => some []
    | _ => if (newline? rest).isSome then some rest else none
  | _ => some cs

/-- Ends a line: blanks, maybe a comment, and a line break or the end of the document. -/
def endLine? (cs : List Char) : Option (List Char) :=
  (skipComment (skipBlanks cs)).bind fun
    | [] => some []
    | cs => newline? cs

/-- Skips blanks, comments and line breaks. -/
def skipLines : (fuel : Nat) → List Char → Option (List Char)
  | 0, cs => some cs
  | fuel + 1, cs =>
    (skipComment (skipBlanks cs)).bind fun cs =>
      match newline? cs with
      | some rest => skipLines fuel rest
      | none => some cs

/-- The number that hexadecimal digits stand for. -/
def hexNumber? (cs : List Char) : Option Nat :=
  cs.foldl (fun n c => n.bind fun n => (Text.hexValue? c).map fun d => n * 16 + d) (some 0)

/-- The character with a number, unless the number is a surrogate or too large. -/
def scalar? (n : Nat) : Option Char :=
  if n < 0xD800 ∨ (0xE000 ≤ n ∧ n < 0x110000) then some (Char.ofNat n) else none

/-- The characters of an escape after its backslash, and the text after it. -/
def escape? : List Char → Option (Char × List Char)
  | 'b' :: rest => some (Char.ofNat 8, rest)
  | 't' :: rest => some ('\t', rest)
  | 'n' :: rest => some ('\n', rest)
  | 'f' :: rest => some (Char.ofNat 12, rest)
  | 'r' :: rest => some ('\r', rest)
  | '"' :: rest => some ('"', rest)
  | '\\' :: rest => some ('\\', rest)
  | 'u' :: rest => wide? 4 rest
  | 'U' :: rest => wide? 8 rest
  | _ => none
where
  /-- A character by its number in so many hexadecimal digits. -/
  wide? (digits : Nat) (rest : List Char) : Option (Char × List Char) :=
    if rest.length < digits then none
    else ((hexNumber? (rest.take digits)).bind scalar?).map fun c => (c, rest.drop digits)

/-- Reads a basic string after its opening quote. -/
def basic? : (fuel : Nat) → (read : List Char) → List Char → Option (String × List Char)
  | 0, _, _ => none
  | _, _, [] => none
  | fuel + 1, read, c :: rest =>
    if c = '"' then some (String.ofList read.reverse, rest)
    else if c = '\\' then (escape? rest).bind fun (d, rest) => basic? fuel (d :: read) rest
    else if isControl c then none
    else basic? fuel (c :: read) rest

/-- Reads a literal string after its opening quote. -/
def literal? (cs : List Char) : Option (String × List Char) :=
  let inner := cs.takeWhile fun c => c != '\'' && !isControl c
  match cs.dropWhile fun c => c != '\'' && !isControl c with
  | '\'' :: rest => some (String.ofList inner, rest)
  | _ => none

/-- How many times a quote stands at the front of a text. -/
def quoteCount (quote : Char) (cs : List Char) : Nat := (cs.takeWhile (· == quote)).length

/-- The end of a string over several lines: the quotes beyond the closing three belong to it. -/
def close? (quote : Char) (read cs : List Char) : Option (String × List Char) :=
  let n := quoteCount quote cs
  if n < 3 ∨ 5 < n then none
  else some (String.ofList (List.replicate (n - 3) quote ++ read).reverse, cs.drop n)

/-- Skips blanks and line breaks after a backslash at the end of a line. -/
def skipSpace (cs : List Char) : List Char :=
  cs.dropWhile fun c => isBlank c || c == '\n' || c == '\r'

/-- Reads a string over several lines, basic or literal, after its opening quotes. -/
def multiline? (quote : Char) (escapes : Bool) :
    (fuel : Nat) → (read : List Char) → List Char → Option (String × List Char)
  | 0, _, _ => none
  | _, _, [] => none
  | fuel + 1, read, c :: rest =>
    if c = quote then
      if 3 ≤ quoteCount quote (c :: rest) then close? quote read (c :: rest)
      else multiline? quote escapes fuel (c :: read) rest
    else if escapes ∧ c = '\\' then
      match newline? (skipBlanks rest) with
      | some rest => multiline? quote escapes fuel read (skipSpace rest)
      | none => (escape? rest).bind fun (d, rest) => multiline? quote escapes fuel (d :: read) rest
    else match newline? (c :: rest) with
      | some rest => multiline? quote escapes fuel ('\n' :: read) rest
      | none => if isControl c then none else multiline? quote escapes fuel (c :: read) rest

/-- The text without the line break right after the opening quotes. -/
def dropFirstBreak (cs : List Char) : List Char := (newline? cs).getD cs

/-- Reads a string of any of the four kinds. -/
def string? (cs : List Char) : Option (String × List Char) :=
  match cs with
  | '"' :: '"' :: '"' :: rest => multiline? '"' true (cs.length + 1) [] (dropFirstBreak rest)
  | '\'' :: '\'' :: '\'' :: rest => multiline? '\'' false (cs.length + 1) [] (dropFirstBreak rest)
  | '"' :: rest => basic? (cs.length + 1) [] rest
  | '\'' :: rest => literal? rest
  | _ => none

end IncidentRelay.Toml
