import IncidentRelay.Decimal.Numeral
import IncidentRelay.Json.Value
import IncidentRelay.Word

/-!
# Tokens of a JSON text

A JSON text is first cut into tokens: brackets, braces, commas, colons, literal names, numbers and
strings. The scanner reads one character at a time and holds what it has begun; blanks are the
four of the format. A token is decided by the whole run of characters that could continue it, so
`01`, `1.` and `nullx` are no tokens at all.
-/

namespace IncidentRelay.Json

/-- A token of a JSON text. -/
inductive Token
  | openBrace
  | closeBrace
  | openBracket
  | closeBracket
  | colon
  | comma
  | null
  | bool (b : Bool)
  | number (n : Number)
  | string (s : String)

/-- What the scanner has begun to read. Characters are held last first. -/
inductive Scanning
  | between
  /-- Inside a literal name. -/
  | word (read : List Char)
  /-- Inside a number. -/
  | numeral (read : List Char)
  /-- Inside a string. -/
  | text (read : List Char)
  /-- After a backslash. -/
  | escape (read : List Char)
  /-- Inside `\u`, with the digits still missing, the number so far, and the leading surrogate
  that came right before, if one did. -/
  | unit (read : List Char) (missing value : Nat) (lead : Option Nat)
  /-- After a leading surrogate, which needs a second one; `true` once its backslash is read. -/
  | pair (read : List Char) (lead : Nat) (slash : Bool)

/-- The literal names. -/
def word? (w : List Char) : Option Token :=
  match String.ofList w with
  | "null" => some .null
  | "true" => some (.bool true)
  | "false" => some (.bool false)
  | _ => none

/-- A number: an optional minus, an integer part without a leading zero, an optional fraction and
an optional exponent. Integers that fit in 64 bits stay integers, save for minus zero. -/
def number? (cs : List Char) : Option Number :=
  let (negative, cs) := match cs with
    | '-' :: r => (true, r)
    | r => (false, r)
  let whole := cs.takeWhile Text.isDigit
  let cs := cs.dropWhile Text.isDigit
  let leadingZero := match whole with
    | '0' :: _ :: _ => true
    | _ => false
  if whole = [] ∨ leadingZero then none
  else
    match cs with
    | [] =>
      let n := Text.digitsValue whole
      if negative then
        if 0 < n ∧ n ≤ minSignedSize then some (.int (-n))
        else (Decimal.stepwise true whole [] false []).map .float
      else if n ≤ maxWord then some (.int n)
      else (Decimal.stepwise false whole [] false []).map .float
    | '.' :: r =>
      let fraction := r.takeWhile Text.isDigit
      if fraction = [] then none
      else (exponent? (r.dropWhile Text.isDigit)).bind fun (down, e) =>
        (Decimal.stepwise negative whole fraction down e).map .float
    | r => (exponent? r).bind fun (down, e) =>
        (Decimal.stepwise negative whole [] down e).map .float
where
  /-- The exponent part, or nothing at all: whether it is negative, and its digits. -/
  exponent? (cs : List Char) : Option (Bool × List Char) :=
    match cs with
    | [] => some (false, [])
    | c :: r =>
      if c = 'e' ∨ c = 'E' then
        let (down, ds) := match r with
          | '-' :: ds => (true, ds)
          | '+' :: ds => (false, ds)
          | ds => (false, ds)
        if ds ≠ [] ∧ ds.all Text.isDigit then some (down, ds) else none
      else none

/-- Whether a character can stand in a number. -/
def continuesNumber (c : Char) : Bool :=
  Text.isDigit c || c == '.' || c == '-' || c == '+' || c == 'e' || c == 'E'

/-- The blanks of the format. -/
def isSpace (c : Char) : Bool := c == ' ' || c == '\n' || c == '\t' || c == '\r'

/-- The tokens that are single characters. -/
def mark? (c : Char) : Option Token :=
  match c with
  | '{' => some .openBrace
  | '}' => some .closeBrace
  | '[' => some .openBracket
  | ']' => some .closeBracket
  | ':' => some .colon
  | ',' => some .comma
  | _ => none

/-- What a character begins when nothing is being read. -/
def beginToken (c : Char) (done : List Token) : Option (Scanning × List Token) :=
  if isSpace c then some (.between, done)
  else if c = '"' then some (.text [], done)
  else if Text.isDigit c ∨ c = '-' then some (.numeral [c], done)
  else if Text.isLetter c then some (.word [c], done)
  else (mark? c).map fun t => (.between, t :: done)

/-- The character that a single-character escape stands for. -/
def unescape? (c : Char) : Option Char :=
  match c with
  | '"' => some '"'
  | '\\' => some '\\'
  | '/' => some '/'
  | 'b' => some (Char.ofNat 8)
  | 'f' => some (Char.ofNat 12)
  | 'n' => some '\n'
  | 'r' => some '\r'
  | 't' => some '\t'
  | _ => none

/-- Reads one character. -/
def Scanning.step (s : Scanning) (done : List Token) (c : Char) :
    Option (Scanning × List Token) :=
  match s with
  | .between => beginToken c done
  | .word w =>
    if Text.isLetter c then some (.word (c :: w), done)
    else (word? w.reverse).bind fun t => beginToken c (t :: done)
  | .numeral w =>
    if continuesNumber c then some (.numeral (c :: w), done)
    else (number? w.reverse).bind fun n => beginToken c (.number n :: done)
  | .text w =>
    if c = '"' then some (.between, .string (String.ofList w.reverse) :: done)
    else if c = '\\' then some (.escape w, done)
    else if c.toNat < 32 then none
    else some (.text (c :: w), done)
  | .escape w =>
    if c = 'u' then some (.unit w 4 0 none, done)
    else (unescape? c).map fun d => (.text (d :: w), done)
  | .unit w missing value lead =>
    (Text.hexValue? c).bind fun d =>
      let value := value * 16 + d
      match missing with
      | 0 | 1 =>
        match lead with
        | none =>
          if 0xD800 ≤ value ∧ value < 0xDC00 then some (.pair w value false, done)
          else if 0xDC00 ≤ value ∧ value < 0xE000 then none
          else some (.text (Char.ofNat value :: w), done)
        | some high =>
          if 0xDC00 ≤ value ∧ value < 0xE000 then
            some
              (.text (Char.ofNat (0x10000 + (high - 0xD800) * 0x400 + (value - 0xDC00)) :: w), done)
          else none
      | k + 2 => some (.unit w (k + 1) value lead, done)
  | .pair w high slash =>
    if slash then if c = 'u' then some (.unit w 4 0 (some high), done) else none
    else if c = '\\' then some (.pair w high true, done) else none

/-- What is left over at the end of the text. -/
def Scanning.finish (s : Scanning) (done : List Token) : Option (List Token) :=
  match s with
  | .between => some done.reverse
  | .word w => (word? w.reverse).map fun t => (t :: done).reverse
  | .numeral w => (number? w.reverse).map fun n => (Token.number n :: done).reverse
  | _ => none

/-- Reads a text from a state of the scanner. -/
def scanFrom (s : Scanning) (done : List Token) : List Char → Option (List Token)
  | [] => s.finish done
  | c :: rest =>
    match s.step done c with
    | none => none
    | some (s, done) => scanFrom s done rest

/-- The tokens of a text. -/
def scan (text : List Char) : Option (List Token) := scanFrom .between [] text

end IncidentRelay.Json
