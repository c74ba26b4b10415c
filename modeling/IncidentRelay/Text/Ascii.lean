/-!
# ASCII letters and digits

The formats of this library fold case and read digits in ASCII only, whatever the surrounding
text: status words, header names, boolean spellings and numerals. The functions here never look
beyond ASCII, so a full-width digit is no digit and a dotted capital I has no lower case.

## Main statements

* `equalsIgnoringCase_refl`, `equalsIgnoringCase_comm`: equality up to ASCII case is symmetric
  and holds of equal texts.
* `digitsValue_append_singleton`: a numeral grows by one digit at a time.
-/

namespace IncidentRelay.Text

/-- The lower-case form of an ASCII capital; every other character stands for itself. -/
def lowerAscii (c : Char) : Char :=
  if 'A' ≤ c ∧ c ≤ 'Z' then Char.ofNat (c.toNat + 32) else c

/-- The capital form of an ASCII lower-case letter; every other character stands for itself. -/
def upperAscii (c : Char) : Char :=
  if 'a' ≤ c ∧ c ≤ 'z' then Char.ofNat (c.toNat - 32) else c

/-- Equality of two texts up to the case of ASCII letters. -/
def equalsIgnoringCase (s t : String) : Bool :=
  s.toList.map lowerAscii == t.toList.map lowerAscii

/-- Every text equals itself, whatever its case. -/
theorem equalsIgnoringCase_refl (s : String) : equalsIgnoringCase s s = true := by
  simp [equalsIgnoringCase]

/-- Equality in any case is symmetric. -/
theorem equalsIgnoringCase_comm (s t : String) :
    equalsIgnoringCase s t = equalsIgnoringCase t s := by
  simp only [equalsIgnoringCase, Bool.beq_comm]

/-- The ten digits `0` to `9`. -/
def isDigit (c : Char) : Bool := '0' ≤ c && c ≤ '9'

/-- The twenty-six small and twenty-six capital letters of ASCII. -/
def isLetter (c : Char) : Bool := ('a' ≤ c && c ≤ 'z') || ('A' ≤ c && c ≤ 'Z')

/-- A letter or a digit of ASCII. -/
def isAlphanumeric (c : Char) : Bool := isLetter c || isDigit c

/-- The number that a digit stands for. -/
def digitValue (c : Char) : Nat := c.toNat - '0'.toNat

/-- The value of a hexadecimal digit of either case. -/
def hexValue? (c : Char) : Option Nat :=
  if isDigit c then some (digitValue c)
  else if 'a' ≤ c ∧ c ≤ 'f' then some (c.toNat - 'a'.toNat + 10)
  else if 'A' ≤ c ∧ c ≤ 'F' then some (c.toNat - 'A'.toNat + 10)
  else none

/-- The number that a row of decimal digits stands for, most significant first. -/
def digitsValue (cs : List Char) : Nat :=
  cs.foldl (fun n c => 10 * n + digitValue c) 0

/-- One more digit behind a number. -/
theorem digitsValue_append_singleton (cs : List Char) (c : Char) :
    digitsValue (cs ++ [c]) = 10 * digitsValue cs + digitValue c := by
  simp [digitsValue]

/-- A decimal numeral made of digits alone, at least one. -/
def natural? (s : String) : Option Nat :=
  let cs := s.toList
  if cs ≠ [] ∧ cs.all isDigit then some (digitsValue cs) else none

/-- The hexadecimal digit of a number below sixteen, in capitals or in small letters. -/
def hexDigit (capital : Bool) (n : Nat) : Char :=
  if n < 10 then Char.ofNat (n + 48)
  else if capital then Char.ofNat (n + 55) else Char.ofNat (n + 87)

end IncidentRelay.Text
