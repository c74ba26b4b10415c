import IncidentRelay.Decimal.FloatText
import IncidentRelay.Json.Value
import IncidentRelay.Text.Lines
import IncidentRelay.Word

/-!
# Numbers, truth values and dates of TOML

The values that are written without quotes or brackets. Each is decided from the whole run of
characters that could belong to it. The value of a floating-point number is not kept, since no
setting is one; it only has to be well-formed and finite unless it says otherwise.
-/

namespace IncidentRelay.Toml

open Json (Value)

/-- A character of a number, a truth value or a date. -/
def isBare (c : Char) : Bool :=
  Text.isAlphanumeric c || c == '_' || c == '+' || c == '-' || c == '.' || c == ':'

/-- The digits of a numeral with single underscores between digits. -/
def grouped? (isDigit : Char → Bool) (cs : List Char) : Option (List Char) :=
  let groups := Text.segments '_' cs
  if groups.all fun g => g ≠ [] ∧ g.all isDigit then some groups.flatten else none

/-- The number that digits stand for in a base. -/
def digitsIn (base : Nat) (cs : List Char) : Nat :=
  cs.foldl (fun n c => n * base + (Text.hexValue? c).getD 0) 0

/-- An integer that fits in 64 bits. -/
def word? (i : Int) : Option Value :=
  if -(minSignedSize : Int) ≤ i ∧ i < minSignedSize then some (.int i) else none

/-- A numeral in a base other than ten, after its mark. -/
def based? (base : Nat) (cs : List Char) : Option Value :=
  (grouped? (fun c => ((Text.hexValue? c).map fun d => decide (d < base)).getD false) cs).bind
    fun ds => word? (digitsIn base ds)

/-- The integer part of a decimal numeral: no zero stands before another digit. -/
def whole? (cs : List Char) : Option (List Char) :=
  (grouped? Text.isDigit cs).bind fun ds =>
    match ds with
    | '0' :: _ :: _ => none
    | _ => some ds

/-- A floating-point number, whose value is not kept. -/
def floatMark : Value := .number (.float Decimal.Binary64.zero)

/-- A decimal number without its sign. -/
def decimal? (negative : Bool) (cs : List Char) : Option Value :=
  let isMark (c : Char) : Bool := c == '.' || c == 'e' || c == 'E'
  let whole := cs.takeWhile fun c => !isMark c
  (whole? whole).bind fun ds =>
    match cs.dropWhile fun c => !isMark c with
    | [] =>
      let n : Int := Text.digitsValue ds
      word? (if negative then -n else n)
    | '.' :: rest =>
      let fraction := rest.takeWhile fun c => !isMark c
      (grouped? Text.isDigit fraction).bind fun fs =>
        float? (ds ++ '.' :: fs) (rest.dropWhile fun c => !isMark c)
    | rest => float? ds rest
where
  /-- A number from its digits and its exponent part. -/
  float? (digits rest : List Char) : Option Value :=
    let exponent : Option (List Char) := match rest with
      | [] => some []
      | '.' :: _ => none
      | _ :: '-' :: ds => (grouped? Text.isDigit ds).map fun ds => 'e' :: '-' :: ds
      | _ :: '+' :: ds => (grouped? Text.isDigit ds).map fun ds => 'e' :: ds
      | _ :: ds => (grouped? Text.isDigit ds).map fun ds => 'e' :: ds
    exponent.bind fun e =>
      match Decimal.float? (String.ofList (digits ++ e)) with
      | some (.number (.finite _)) => some floatMark
      | _ => none

/-- A number of two digits within bounds, and what follows it. -/
def twoDigits? (low high : Nat) : List Char → Option (Nat × List Char)
  | a :: b :: rest =>
    let n := Text.digitsValue [a, b]
    if Text.isDigit a ∧ Text.isDigit b ∧ low ≤ n ∧ n ≤ high then some (n, rest) else none
  | _ => none

/-- The days of a month. -/
def daysIn (year month : Nat) : Nat :=
  if month = 2 then if year % 4 = 0 ∧ (year % 100 ≠ 0 ∨ year % 400 = 0) then 29 else 28
  else if month ∈ [4, 6, 9, 11] then 30 else 31

/-- Takes one given character. -/
def take? (c : Char) : List Char → Option (List Char)
  | d :: rest => if d = c then some rest else none
  | [] => none

/-- Takes a date from the front of a text. -/
def date? (cs : List Char) : Option (List Char) := do
  let year := cs.take 4
  if year.length = 4 ∧ year.all Text.isDigit then
    let rest ← take? '-' (cs.drop 4)
    let (month, rest) ← twoDigits? 1 12 rest
    let rest ← take? '-' rest
    let (_, rest) ← twoDigits? 1 (daysIn (Text.digitsValue year) month) rest
    some rest
  else none

/-- Takes a time of day from the front of a text. -/
def time? (cs : List Char) : Option (List Char) := do
  let (_, rest) ← twoDigits? 0 23 cs
  let rest ← take? ':' rest
  let (_, rest) ← twoDigits? 0 59 rest
  let rest ← take? ':' rest
  let (_, rest) ← twoDigits? 0 60 rest
  match rest with
  | '.' :: fraction =>
    if (fraction.takeWhile Text.isDigit).isEmpty then none
    else some (fraction.dropWhile Text.isDigit)
  | _ => some rest

/-- Takes a distance from universal time from the front of a text, if one is there. -/
def offset? (cs : List Char) : Option (List Char) :=
  match cs with
  | 'Z' :: rest | 'z' :: rest => some rest
  | '+' :: rest | '-' :: rest => do
    let (_, rest) ← twoDigits? 0 23 rest
    let rest ← take? ':' rest
    let (_, rest) ← twoDigits? 0 59 rest
    some rest
  | _ => some cs

/-- Takes a date, a time or both from the front of a text. -/
def instant? (cs : List Char) : Option (List Char) :=
  match date? cs with
  | some rest =>
    match rest with
    | d :: more =>
      if d = 'T' ∨ d = 't' ∨ d = ' ' then
        match time? more with
        | some rest => offset? rest
        | none => if d = ' ' then some rest else none
      else some rest
    | [] => some []
  | none => time? cs

/-- The value of a date, which no setting is. -/
def instantMark (cs : List Char) : Value :=
  .object [("$__toml_private_datetime", .string (String.ofList cs))]

/-- A number from the whole run of its characters. -/
def number? (run : List Char) : Option Value :=
  match run with
  | '0' :: 'x' :: ds => based? 16 ds
  | '0' :: 'o' :: ds => based? 8 ds
  | '0' :: 'b' :: ds => based? 2 ds
  | _ =>
    let (negative, ds) := match run with
      | '-' :: ds => (true, ds)
      | '+' :: ds => (false, ds)
      | ds => (false, ds)
    if ds = ['i', 'n', 'f'] ∨ ds = ['n', 'a', 'n'] then some floatMark else decimal? negative ds

/-- Reads a value without quotes or brackets from the front of a text. -/
def scalarValue? (cs : List Char) : Option (Value × List Char) :=
  match instant? cs with
  | some rest => some (instantMark (cs.take (cs.length - rest.length)), rest)
  | none =>
    let run := cs.takeWhile isBare
    let rest := cs.dropWhile isBare
    if run = ['t', 'r', 'u', 'e'] then some (.bool true, rest)
    else if run = ['f', 'a', 'l', 's', 'e'] then some (.bool false, rest)
    else (number? run).map fun v => (v, rest)

end IncidentRelay.Toml
