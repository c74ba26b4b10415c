import IncidentRelay.Json.Value
import IncidentRelay.Text.Ascii

/-!
# Writing JSON

The compact text of a value: no blanks, members in their order, integers in decimal, other numbers
with the fewest digits that read back. In a string only the quote, the backslash and the control
characters below the space are escaped, by their short name where they have one.

## Main statements

* `escaped_of_printing`: a character from the space up, other than quote and backslash, is written
  as it is.
-/

namespace IncidentRelay.Json

/-- A character inside a string. -/
def escaped (c : Char) : List Char :=
  if c = '"' then ['\\', '"']
  else if c = '\\' then ['\\', '\\']
  else if c.toNat < 32 then
    if c = '\n' then ['\\', 'n']
    else if c = '\r' then ['\\', 'r']
    else if c = '\t' then ['\\', 't']
    else if c.toNat = 8 then ['\\', 'b']
    else if c.toNat = 12 then ['\\', 'f']
    else
      ['\\', 'u', '0', '0', Text.hexDigit false (c.toNat / 16),
        Text.hexDigit false (c.toNat % 16)]
  else [c]

/-- A printing character stands for itself, unless it would end the text or begin an escape. -/
theorem escaped_of_printing {c : Char} (h : 32 ≤ c.toNat) (hq : c ≠ '"') (hb : c ≠ '\\') :
    escaped c = [c] := by
  have : ¬c.toNat < 32 := by omega
  simp [escaped, this, hq, hb]

/-- A string with its quotes. -/
def writeString (s : String) : String :=
  "\"" ++ String.ofList (s.toList.flatMap escaped) ++ "\""

/-- A number. -/
def Number.write : Number → String
  | .int i => toString i
  | .float x => x.toText

mutual

/-- The compact text of a value. -/
def Value.write : Value → String
  | .null => "null"
  | .bool true => "true"
  | .bool false => "false"
  | .number n => n.write
  | .string s => writeString s
  | .array items => "[" ++ Value.writeItems items ++ "]"
  | .object fields => "\x7b" ++ Value.writeFields fields ++ "\x7d"

/-- Items with commas between them. -/
def Value.writeItems : List Value → String
  | [] => ""
  | [x] => x.write
  | x :: rest => x.write ++ "," ++ Value.writeItems rest

/-- Members with commas between them. -/
def Value.writeFields : List (String × Value) → String
  | [] => ""
  | [(k, v)] => writeString k ++ ":" ++ v.write
  | (k, v) :: rest => writeString k ++ ":" ++ v.write ++ "," ++ Value.writeFields rest

end

end IncidentRelay.Json
