import IncidentRelay.Decimal.Binary64

/-!
# The shortest decimal that reads back

The digits chosen for a binary64 number are the fewest that lie in its rounding interval: the
numbers nearer to it than to its neighbours, the ends included when the significand is even. On
the coarsest decimal grid that meets the interval, the point nearest to the number is taken, the
even one of two equally near.

Numbers whose decimal point falls within sixteen digits before or five zeros after it are written
positionally with at least one digit on each side of the point, all others with an exponent that
always has a sign when positive: `100.0`, `0.001`, `1e+21`, `1.5e-7`.
-/

namespace IncidentRelay.Decimal

/-- A decimal number `digits * 10 ^ power`. -/
structure Scaled where
  digits : Nat
  power : Int

/-- Four times the rounding interval of a positive number: lower end, the number, upper end, all
over the same power of two, and whether the ends belong to it. -/
structure Interval where
  low : Nat
  mid : Nat
  high : Nat
  unit : Int
  closed : Bool

/-- The rounding interval of a number. Just above a power of two the lower neighbour is only half
as far away. -/
def Interval.of (x : Binary64) : Interval :=
  let m := x.mantissa
  let down := if x.bits % binade = 0 ∧ x.bits ≥ 2 * binade then 1 else 2
  ⟨4 * m - down, 4 * m, 4 * m + 2, x.exponent - 2, m % 2 == 0⟩

/-- Whether `digits * 10 ^ power` lies in the interval. -/
def Interval.contains (i : Interval) (s : Scaled) : Bool :=
  let here := s.digits * Nat.pow 10 s.power.toNat * Nat.pow 2 (-i.unit).toNat
  let scale := Nat.pow 10 (-s.power).toNat * Nat.pow 2 i.unit.toNat
  if i.closed then i.low * scale ≤ here && here ≤ i.high * scale
  else i.low * scale < here && here < i.high * scale

/-- The two neighbours of the interval's middle on the grid of a power of ten, and how far each
is, up to a common factor. -/
def Interval.neighbours (i : Interval) (power : Int) : Nat × Nat × Nat :=
  let n := i.mid * Nat.pow 2 i.unit.toNat * Nat.pow 10 (-power).toNat
  let d := Nat.pow 2 (-i.unit).toNat * Nat.pow 10 power.toNat
  (n / d, n % d, d - n % d)

/-- The grid point to take at this power of ten, if one lies in the interval. -/
def Interval.pick? (i : Interval) (power : Int) : Option Scaled :=
  let (q, below, above) := i.neighbours power
  let lower : Scaled := ⟨q, power⟩
  let upper : Scaled := ⟨q + 1, power⟩
  match 0 < q && i.contains lower, i.contains upper with
  | true, true =>
    if below < above then some lower
    else if above < below then some upper
    else if q % 2 = 0 then some lower else some upper
  | true, false => some lower
  | false, true => some upper
  | false, false => none

/-- Searches the grids from coarse to fine, `fuel` of them. -/
def Interval.search (i : Interval) : Nat → Int → Scaled
  | 0, power => ⟨i.mid, power⟩
  | fuel + 1, power =>
    match i.pick? power with
    | some s => s
    | none => i.search fuel (power - 1)

/-- The shortest decimal in the rounding interval of a positive number. Every grid finer than
`10 ^ (-325)` meets each interval, and none coarser than `10 ^ 309` does. -/
def Binary64.shortest (x : Binary64) : Scaled :=
  (Interval.of x).search 640 310

/-- The decimal digits of a number, most significant first. -/
def numeral (n : Nat) : String := toString n

/-- The text of a positive number from its shortest digits. -/
def Scaled.toText (s : Scaled) : String :=
  let ds := (numeral s.digits).toList
  let point : Int := ds.length + s.power
  if 0 ≤ s.power ∧ point ≤ 16 then
    String.ofList (ds ++ List.replicate s.power.toNat '0') ++ ".0"
  else if 0 < point ∧ point ≤ 16 then
    String.ofList (ds.take point.toNat ++ '.' :: ds.drop point.toNat)
  else if -5 < point ∧ point ≤ 0 then
    "0." ++ String.ofList (List.replicate (-point).toNat '0' ++ ds)
  else
    let e := point - 1
    let mark := if e < 0 then "e-" else "e+"
    let head := String.ofList (ds.take 1)
    let tail := ds.drop 1
    head ++ (if tail = [] then "" else "." ++ String.ofList tail) ++ mark ++ numeral e.natAbs

/-- The text of a number: the fewest digits that read back. -/
def Binary64.toText (x : Binary64) : String :=
  (if x.negative then "-" else "") ++ if x.isZero then "0.0" else x.shortest.toText

end IncidentRelay.Decimal
