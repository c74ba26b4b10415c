import IncidentRelay.Text.Ascii

/-!
# Timestamps

Timestamps of the internet: a date and a time of day with seconds, maybe a fraction, and an offset
from universal time. They are written back in their own offset, without fraction and offset.
-/

namespace IncidentRelay.Template

/-- A date and a time of day. -/
structure Timestamp where
  year : Nat
  month : Nat
  day : Nat
  hour : Nat
  minute : Nat
  /-- Up to 60, the number of a leap second. -/
  second : Nat
  deriving DecidableEq

namespace Timestamp

/-- Whether a year has a leap day. -/
def isLeap (year : Nat) : Bool :=
  year % 4 == 0 && (year % 100 != 0 || year % 400 == 0)

/-- How many days a month has. -/
def daysOf (year month : Nat) : Nat :=
  if month = 2 then if isLeap year then 29 else 28
  else if month = 4 ∨ month = 6 ∨ month = 9 ∨ month = 11 then 30 else 31

/-- Whether there is such a date and time. -/
def exists? (t : Timestamp) : Bool :=
  1 ≤ t.month && t.month ≤ 12 && 1 ≤ t.day && t.day ≤ daysOf t.year t.month
    && t.hour ≤ 23 && t.minute ≤ 59 && t.second ≤ 60

/-- A number in exactly `n` digits, and what follows it. -/
def digits? (n : Nat) (cs : List Char) : Option (Nat × List Char) :=
  let ds := cs.take n
  if ds.length = n ∧ ds.all Text.isDigit then some (Text.digitsValue ds, cs.drop n) else none

/-- A mark between two numbers. -/
def mark? (c : Char) (cs : List Char) : Option (List Char) :=
  match cs with
  | d :: rest => if d = c then some rest else none
  | [] => none

/-- An optional fraction of a second. -/
def skipFraction (cs : List Char) : Option (List Char) :=
  match cs with
  | '.' :: rest =>
    if (rest.takeWhile Text.isDigit).isEmpty then none else some (rest.dropWhile Text.isDigit)
  | _ => some cs

/-- Whether a text is an offset: the letter for universal time, or hours and minutes with a
sign. -/
def isOffset (cs : List Char) : Bool :=
  match cs with
  | ['Z'] | ['z'] => true
  | sign :: rest =>
    if sign = '+' ∨ sign = '-' ∨ sign = '\u2212' then
      let offset := (digits? 2 rest).bind fun (hours, rest) => (mark? ':' rest).bind fun rest =>
        (digits? 2 rest).map fun (minutes, rest) => hours ≤ 23 && minutes ≤ 59 && rest.isEmpty
      offset.getD false
    else false
  | [] => false

/-- The timestamp of a text. -/
def read? (s : String) : Option Timestamp :=
  (digits? 4 s.toList).bind fun (year, cs) => (mark? '-' cs).bind fun cs =>
  (digits? 2 cs).bind fun (month, cs) => (mark? '-' cs).bind fun cs =>
  (digits? 2 cs).bind fun (day, cs) =>
  (match cs with
    | 'T' :: cs | 't' :: cs | ' ' :: cs => some cs
    | _ => none).bind fun cs =>
  (digits? 2 cs).bind fun (hour, cs) => (mark? ':' cs).bind fun cs =>
  (digits? 2 cs).bind fun (minute, cs) => (mark? ':' cs).bind fun cs =>
  (digits? 2 cs).bind fun (second, cs) =>
  (skipFraction cs).bind fun cs =>
    let t : Timestamp := { year, month, day, hour, minute, second }
    if t.exists? && isOffset cs then some t else none

/-- A number in at least `n` digits. -/
def padded (n k : Nat) : String :=
  let ds := (Nat.toDigits 10 k)
  String.ofList (List.replicate (n - ds.length) '0' ++ ds)

/-- The date and the time of day with a space between them. -/
def toText (t : Timestamp) : String :=
  padded 4 t.year ++ "-" ++ padded 2 t.month ++ "-" ++ padded 2 t.day ++ " "
    ++ padded 2 t.hour ++ ":" ++ padded 2 t.minute ++ ":" ++ padded 2 t.second

end Timestamp

end IncidentRelay.Template
