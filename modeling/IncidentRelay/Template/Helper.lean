import IncidentRelay.Decimal.FloatText
import IncidentRelay.Json.Writer
import IncidentRelay.Template.Timestamp
import IncidentRelay.Text.Blank
import IncidentRelay.Text.Case
import IncidentRelay.Text.Lines

/-!
# Helpers

The text and the truth of values, and the helpers that compute a value from their arguments: texts
in capitals or small letters, replaced, searched and cut, defaults, JSON, times, comparisons and
logic. A helper that misses an argument, or gets one of another type, has no value.
-/

namespace IncidentRelay.Template

open Decimal (Binary64)
open Json (Number Value)

mutual

/-- The text that a value is shown as. -/
def plainText : Value → List Char
  | .null => []
  | .bool true => ['t', 'r', 'u', 'e']
  | .bool false => ['f', 'a', 'l', 's', 'e']
  | .number n => n.write.toList
  | .string s => s.toList
  | .array items => '[' :: plainItems items ++ [']']
  | .object _ => ['[', 'o', 'b', 'j', 'e', 'c', 't', ']']

/-- The items of an array with commas between them. -/
def plainItems : List Value → List Char
  | [] => []
  | [x] => plainText x
  | x :: rest => plainText x ++ ',' :: ' ' :: plainItems rest

end

/-- Whether a number counts as true: unless it is zero, or so small that it has lost precision. -/
def isTrueNumber : Number → Bool
  | .int i => i != 0
  | .float x => decide (Decimal.binade ≤ x.bits)

/-- Whether a value counts as true. Zero counts as false unless it is to be included. -/
def truthy (includeZero : Bool) : Value → Bool
  | .null => false
  | .bool b => b
  | .number n => includeZero || isTrueNumber n
  | .string s => s != ""
  | .array items => !items.isEmpty
  | .object fields => !fields.isEmpty

/-- A key that orders binary64 numbers. -/
def floatKey (x : Binary64) : Int := if x.negative then -x.bits else x.bits

mutual

/-- Whether two values are equal to a comparison: the two zeros among binary64 numbers are, and a
binary64 number never equals an integer. -/
def same : Value → Value → Bool
  | .number (.float x), .number (.float y) => floatKey x == floatKey y
  | .array xs, .array ys => sameItems xs ys
  | .object fs, .object gs => sameMembers fs gs
  | x, y => x = y

/-- Whether the items of two arrays are equal to a comparison. -/
def sameItems : List Value → List Value → Bool
  | [], [] => true
  | x :: xs, y :: ys => same x y && sameItems xs ys
  | _, _ => false

/-- Whether the members of two objects are equal to a comparison. -/
def sameMembers : List (String × Value) → List (String × Value) → Bool
  | [], [] => true
  | (k, x) :: fs, (l, y) :: gs => k == l && same x y && sameMembers fs gs
  | _, _ => false

end

/-- The exact value of a number as a quotient of an integer by a positive natural number. -/
def exactRatio : Number → Int × Nat
  | .int i => (i, 1)
  | .float x => x.toRatio

/-- Compares the exact values of two numbers. -/
def compareNumbers (m n : Number) : Ordering :=
  compare ((exactRatio m).1 * (exactRatio n).2) ((exactRatio n).1 * (exactRatio m).2)

/-- A key that orders numbers of both kinds as the nearest binary64 numbers. -/
def numberKey : Number → Int
  | .int i => ((Binary64.ofQuotient? (i < 0) i.natAbs 1).map floatKey).getD 0
  | .float x => floatKey x

/-- The key of infinity, which is beyond those of all numbers. -/
def infiniteKey (negative : Bool) : Int :=
  if negative then -Decimal.overflowBits else Decimal.overflowBits

/-- The key of the number that a text spells. -/
def textKey? (s : String) : Option Int :=
  match Decimal.float? s with
  | some (.number (.finite x)) => some (floatKey x)
  | some (.number (.tooLarge negative)) | some (.infinite negative) => some (infiniteKey negative)
  | some .undefined | none => none

/-- Compares two values, if they can be compared: numbers, strings, numerals with numbers, and
truths. -/
def compareValues : Value → Value → Option Ordering
  | .number m, .number n => some (compareNumbers m n)
  | .string s, .string t => some (compare s t)
  | .number m, .string s => (textKey? s).map fun k => compare (numberKey m) k
  | .string s, .number n => (textKey? s).map fun k => compare k (numberKey n)
  | .bool a, .bool b => some (compare a.toNat b.toNat)
  | _, _ => none

/-- How much is in a value: items, members, or bytes of a text. -/
def size : Value → Nat
  | .array items => items.length
  | .object fields => fields.length
  | .string s => s.utf8ByteSize
  | _ => 0

/-- The value that a key leads to in a collection. -/
def lookup (collection key : Value) : Value :=
  match collection, key with
  | .array items, .number (.int i) => if i < 0 then .null else items[i.toNat]?.getD .null
  | .object fields, .string k => (Table.get? fields k).getD .null
  | _, _ => .null

/-- The names of the helpers that compute a value. -/
def valueHelpers : List String :=
  ["upper", "lower", "replace", "contains", "truncate", "default", "json", "format_time", "lookup",
    "eq", "ne", "gt", "gte", "lt", "lte", "and", "or", "not", "len"]

/-- The first argument, which has to be a text. -/
def textArgument? (args : List Value) : Option String := args.head?.bind (·.asString?)

/-- A helper with one text for its argument. -/
def onText (f : String → Value) (args : List Value) : Option Value := (textArgument? args).map f

/-- A helper with two arguments of any type. -/
def onPair (f : Value → Value → Value) : List Value → Option Value
  | x :: y :: _ => some (f x y)
  | _ => none

/-- A comparison that holds for some orderings. -/
def comparison (holds : Ordering → Bool) : List Value → Option Value :=
  onPair fun x y => .bool ((compareValues x y).any holds)

/-- The value of a helper for its arguments. -/
def helperValue? (name : String) (args : List Value) : Option Value :=
  match name with
  | "upper" => onText (fun s => .string (Text.upper s)) args
  | "lower" => onText (fun s => .string (Text.lower s)) args
  | "replace" =>
    match args with
    | .string s :: .string needle :: .string by_ :: _ => some (.string (Text.replace s needle by_))
    | _ => none
  | "contains" =>
    match args with
    | .string s :: .string needle :: _ => some (.bool (Text.occursIn needle.toList s.toList))
    | _ => none
  | "truncate" =>
    match args with
    | .string s :: .number (.int n) :: _ =>
      if n < 0 then none else some (.string (String.ofList (s.toList.take n.toNat)))
    | _ => none
  | "default" => onPair (fun v fallback =>
      match v with
      | .null | .string "" => fallback
      | v => v) args
  | "json" => args.head?.map fun v => .string v.write
  | "format_time" => onText (fun s =>
      match Timestamp.read? s with
      | some t => .string t.toText
      | none => .string "Invalid time") args
  | "lookup" => onPair lookup args
  | "eq" => onPair (fun x y => .bool (same x y)) args
  | "ne" => onPair (fun x y => .bool (!same x y)) args
  | "gt" => comparison (· == .gt) args
  | "gte" => comparison (· != .lt) args
  | "lt" => comparison (· == .lt) args
  | "lte" => comparison (· != .gt) args
  | "and" => onPair (fun x y => .bool (truthy false x && truthy false y)) args
  | "or" => onPair (fun x y => .bool (truthy false x || truthy false y)) args
  | "not" => args.head?.map fun v => .bool (!truthy false v)
  | "len" => args.head?.map fun v => .nat (size v)
  | _ => none

/-- The levels that a message can be logged at. -/
def logLevels : List String := ["error", "warn", "info", "debug", "trace"]

/-- Whether there is such a level, in any case. -/
def isLogLevel (s : String) : Bool := logLevels.any fun l => Text.equalsIgnoringCase l s

end IncidentRelay.Template
