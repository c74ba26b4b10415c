import IncidentRelay.Decimal.Numeral

/-!
# Reading floating-point texts

The texts that stand for a binary64 number where a setting asks for one: an optional sign, digits
with an optional point among, before or after them, and an optional exponent; or one of the names
of infinity and of the undefined number in any case. Blanks are not allowed anywhere. The value is
the nearest number.
-/

namespace IncidentRelay.Decimal

/-- What a floating-point text stands for. -/
inductive FloatText
  | number (r : Reading)
  | infinite (negative : Bool)
  | undefined

/-- The exponent part at the end of a numeral, or nothing at all. -/
def exponentPart? (cs : List Char) : Option Int :=
  match cs with
  | [] => some 0
  | c :: rest =>
    if c = 'e' ∨ c = 'E' then
      let (negative, ds) := match rest with
        | '-' :: ds => (true, ds)
        | '+' :: ds => (false, ds)
        | ds => (false, ds)
      if ds ≠ [] ∧ ds.all Text.isDigit then
        let n : Int := Text.digitsValue ds
        some (if negative then -n else n)
      else none
    else none

/-- The numeral without its sign. -/
def magnitude? (negative : Bool) (cs : List Char) : Option Numeral :=
  let whole := cs.takeWhile Text.isDigit
  let rest := cs.dropWhile Text.isDigit
  let (fraction, rest) := match rest with
    | '.' :: r => (r.takeWhile Text.isDigit, r.dropWhile Text.isDigit)
    | r => ([], r)
  if whole = [] ∧ fraction = [] then none
  else (exponentPart? rest).map fun e =>
    ⟨negative, Text.digitsValue (whole ++ fraction), e - fraction.length⟩

/-- What a text stands for as a floating-point number. -/
def float? (s : String) : Option FloatText :=
  let (negative, cs) := match s.toList with
    | '-' :: r => (true, r)
    | '+' :: r => (false, r)
    | r => (false, r)
  let name := String.ofList (cs.map Text.lowerAscii)
  if name = "inf" ∨ name = "infinity" then some (.infinite negative)
  else if name = "nan" then some .undefined
  else (magnitude? negative cs).map fun n => .number n.nearest

end IncidentRelay.Decimal
