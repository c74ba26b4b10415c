import IncidentRelay.Decimal.Binary64
import IncidentRelay.Text.Ascii
import IncidentRelay.Word

/-!
# Reading decimal numerals

Two readers of decimal numerals into binary64 numbers. `nearest` rounds the exact value once.
`stepwise` is the reader of JSON texts: it keeps the leading digits that fit in 64 bits, lets
further integer digits only scale the number and drops further fraction digits, rounds what it
kept and then multiplies or divides by a power of ten in binary64 arithmetic, so that its last
bit can differ from the nearest number.

## Main statements

* `nearest_zero`: a numeral without a digit other than zero reads as zero, whatever its power.
-/

namespace IncidentRelay.Decimal

/-- A decimal numeral `± digits * 10 ^ power` as it was read. -/
structure Numeral where
  negative : Bool
  digits : Nat
  power : Int
  deriving DecidableEq

/-- What a numeral reads as. -/
inductive Reading
  | finite (x : Binary64)
  /-- The magnitude is beyond the largest number. -/
  | tooLarge (negative : Bool)

/-- The nearest number, ties to even. Powers far outside the range are decided by the size of the
numeral alone. -/
def Numeral.nearest (n : Numeral) : Reading :=
  let size : Int := (Nat.toDigits 10 n.digits).length + n.power
  if n.digits = 0 ∨ size < -400 then .finite { Binary64.zero with negative := n.negative }
  else if 400 < size then .tooLarge n.negative
  else
    match Binary64.ofQuotient? n.negative (n.digits * Nat.pow 10 n.power.toNat)
      (Nat.pow 10 (-n.power).toNat) with
    | some x => .finite x
    | none => .tooLarge n.negative

/-- Without digits a numeral is nearest to zero, whatever its power. -/
theorem nearest_zero (negative : Bool) (power : Int) :
    Numeral.nearest ⟨negative, 0, power⟩ = .finite { Binary64.zero with negative } := by
  simp [Numeral.nearest]

/-- The binary64 number nearest to a power of ten, the largest for a power that is too large. -/
def pow10 (k : Nat) : Binary64 :=
  match Binary64.ofQuotient? false (Nat.pow 10 k) 1 with
  | some x => x
  | none => ⟨false, overflowBits - 1, by decide⟩

/-- The largest power of ten that one step divides by. -/
def largestPower : Nat := 308

/-- Divides by the largest power of ten a number of times. A number that has become zero stays
zero. -/
def divideTimes : Nat → Binary64 → Option Binary64
  | 0, x => some x
  | n + 1, x => if x.isZero then some x else (x.div? (pow10 largestPower)).bind (divideTimes n)

/-- Divides by a power of ten, in steps of at most the largest one. -/
def scaleDown (x : Binary64) (k : Nat) : Option Binary64 :=
  (divideTimes (k / largestPower) x).bind (·.div? (pow10 (k % largestPower)))

/-- Multiplies or divides by a power of ten; `none` when the result is too large. -/
def scale? (x : Binary64) (power : Int) : Option Binary64 :=
  if power < 0 then scaleDown x (-power).toNat
  else if power ≤ largestPower then x.mul? (pow10 power.toNat)
  else if x.isZero then some x else none

/-- The digits of a numeral that fit in 64 bits, and how many were left over. -/
def leadingDigits (digits : List Char) : Nat × Nat :=
  go 0 digits
where
  /-- Reads on from the digits already taken. -/
  go (n : Nat) : List Char → Nat × Nat
    | [] => (n, 0)
    | c :: rest =>
      let m := 10 * n + Text.digitValue c
      if m ≤ maxWord then go m rest else (n, rest.length + 1)

/-- The fraction digits appended to a significand while it fits in 64 bits, and how many fit. -/
def appendDigits (n : Nat) (digits : List Char) : Nat × Nat :=
  go n 0 digits
where
  /-- Reads on, having appended `k` digits. -/
  go (n k : Nat) : List Char → Nat × Nat
    | [] => (n, k)
    | c :: rest =>
      let m := 10 * n + Text.digitValue c
      if m ≤ maxWord then go m (k + 1) rest else (n, k)

/-- The value of an exponent's digits, or `none` beyond 31 bits. -/
def exponentValue? (digits : List Char) : Option Nat :=
  let n := Text.digitsValue digits
  if n < 0x80000000 then some n else none

/-- Reads a number with integer digits, fraction digits and an exponent by binary64 steps. -/
def stepwise (negative : Bool) (whole fraction : List Char) (exponentNegative : Bool)
    (exponent : List Char) : Option Binary64 :=
  let (w, excess) := leadingDigits whole
  let (n, taken) := if excess = 0 then appendDigits w fraction else (w, 0)
  let start : Int := excess - taken
  let signed (x : Binary64) : Binary64 := { x with negative := negative }
  match exponentValue? exponent with
  | none => if n ≠ 0 ∧ !exponentNegative then none else some (signed Binary64.zero)
  | some e =>
    let power := if exponentNegative then start - e else start + e
    match Binary64.ofQuotient? false n 1 with
    | none => none
    | some x => (scale? x power).map signed

end IncidentRelay.Decimal
