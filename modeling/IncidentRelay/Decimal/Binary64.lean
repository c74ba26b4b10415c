/-!
# Finite double-precision numbers

A finite IEEE 754 binary64 number as its sign and the 63 bits below it, read as one natural
number. The bits grow with the magnitude, so rounding up past the largest significand of one
binade lands on the smallest of the next without a case of its own, and equality of numbers is
equality of representations (the two zeros apart).

Rounding takes an exact quotient of natural numbers to the nearest binary64 number, the even one
of two equally near. All arithmetic here is rounding of exact results.

## Main statements

* `Binary64.mantissa_lt`: the significand of a number fits in 53 bits.
-/

namespace IncidentRelay.Decimal

/-- How many numbers a binade has, two to the power of 52. -/
def binade : Nat := 0x10000000000000

/-- The first bit pattern that stands for no finite number. -/
def overflowBits : Nat := 2047 * binade

/-- A finite binary64 number. -/
structure Binary64 where
  negative : Bool
  bits : Nat
  finite : bits < overflowBits := by decide
  deriving DecidableEq

namespace Binary64

/-- Positive zero. -/
def zero : Binary64 := ⟨false, 0, by decide⟩

/-- The integer significand: the magnitude is `mantissa * 2 ^ exponent`. -/
def mantissa (x : Binary64) : Nat :=
  if x.bits < binade then x.bits else binade + x.bits % binade

/-- The power of two that scales the significand. -/
def exponent (x : Binary64) : Int := (max (x.bits / binade) 1 : Nat) - 1075

/-- The significand of a number fits in 53 bits. -/
theorem mantissa_lt (x : Binary64) : x.mantissa < 2 * binade := by
  have : x.bits % binade < binade := Nat.mod_lt _ (by decide)
  unfold mantissa
  split <;> omega

/-- The magnitude as a quotient of natural numbers, the second positive. -/
def ratio (x : Binary64) : Nat × Nat :=
  (x.mantissa * Nat.pow 2 x.exponent.toNat, Nat.pow 2 (-x.exponent).toNat)

/-- Zero of either sign. -/
def isZero (x : Binary64) : Bool := x.bits == 0

/-- The number with its sign turned. -/
def neg (x : Binary64) : Binary64 := { x with negative := !x.negative }

end Binary64

/-- The exponent of the leading bit of a positive quotient. -/
def quotientLog (num den : Nat) : Int :=
  let guess : Int := num.log2 - den.log2
  let reached :=
    if 0 ≤ guess then den * Nat.pow 2 guess.toNat ≤ num
    else den ≤ num * Nat.pow 2 (-guess).toNat
  if reached then guess else guess - 1

/-- The bits of the binary64 magnitude nearest to `num / den`, ties to even. The result is at
least `overflowBits` when the quotient is too large. -/
def quotientBits (num den : Nat) : Nat :=
  if num = 0 then 0
  else
    let unit := max (quotientLog num den - 52) (-1074)
    let n := num * Nat.pow 2 (-unit).toNat
    let d := den * Nat.pow 2 unit.toNat
    let q := n / d
    let r := n % d
    let up := 2 * r > d || (2 * r == d && q % 2 == 1)
    (unit + 1074).toNat * binade + if up then q + 1 else q

namespace Binary64

/-- The number nearest to the quotient with the sign, or `none` when it is too large. -/
def ofQuotient? (negative : Bool) (num den : Nat) : Option Binary64 :=
  if h : quotientBits num den < overflowBits then some ⟨negative, quotientBits num den, h⟩ else none

/-- The rounded product. -/
def mul? (x y : Binary64) : Option Binary64 :=
  ofQuotient? (x.negative != y.negative) (x.ratio.1 * y.ratio.1) (x.ratio.2 * y.ratio.2)

/-- The rounded quotient, for a divisor other than zero. -/
def div? (x y : Binary64) : Option Binary64 :=
  ofQuotient? (x.negative != y.negative) (x.ratio.1 * y.ratio.2) (x.ratio.2 * y.ratio.1)

/-- The number as a quotient of an integer by a positive natural number. -/
def toRatio (x : Binary64) : Int × Nat :=
  (if x.negative then -(x.ratio.1 : Int) else x.ratio.1, x.ratio.2)

end Binary64

end IncidentRelay.Decimal
