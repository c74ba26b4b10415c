import IncidentRelay.Decimal.Binary64
import Mathlib.Algebra.Order.Field.Power
import Mathlib.Data.Rat.Cast.Order
import Mathlib.Tactic.FieldSimp
import Mathlib.Tactic.Linarith
import Mathlib.Tactic.NormNum
import Mathlib.Tactic.Positivity
import Mathlib.Tactic.Ring

/-!
# The nearest binary64 number

What rounding does to a quotient: the result is a whole number of units of the last place, and it
lies within half a unit of the quotient. The unit is so small that the units of a quotient fill the
53 bits of a significand, unless it is the smallest unit there is.

## Main statements

* `quotientLog_spec`: the leading bit of a quotient.
* `Rounded.of_ofQuotient?`: the rounded number is near the quotient.
* `le_of_ofQuotient?_eq_none`: only huge quotients are too large.
* `Rounded.side`: a quotient with a small denominator stays on its side of every small whole number.
-/

namespace IncidentRelay.Decimal

/-- The significand has 52 bits behind its first one. -/
theorem binade_eq : binade = 2 ^ 52 := by norm_num [binade]

/-- A power of two as a quotient of natural numbers. -/
theorem two_zpow_eq (e : ℤ) :
    (2 : ℚ) ^ e = (Nat.pow 2 e.toNat : ℕ) / (Nat.pow 2 (-e).toNat : ℕ) := by
  rcases Int.le_total 0 e with h | h
  · obtain ⟨n, rfl⟩ := Int.eq_ofNat_of_zero_le h
    simp
  · obtain ⟨n, hn⟩ := Int.eq_ofNat_of_zero_le (Int.neg_nonneg_of_nonpos h)
    obtain rfl : e = -(n : ℤ) := by omega
    simp

/-- Powers of two grow with their exponents. -/
theorem two_zpow_le {d e : ℤ} (h : d ≤ e) : (2 : ℚ) ^ d ≤ 2 ^ e :=
  zpow_le_zpow_right₀ one_le_two h

variable {num den : Nat}

/-! ### The leading bit of a quotient -/

/-- The leading bits of two numbers give that of their quotient up to one place. -/
theorem log2_sub_spec (hnum : num ≠ 0) (hden : den ≠ 0) :
    (2 : ℚ) ^ ((num.log2 : ℤ) - den.log2 - 1) ≤ num / den ∧
      (num / den : ℚ) < 2 ^ ((num.log2 : ℤ) - den.log2 + 1) := by
  have hpos : (0 : ℚ) < den := by exact_mod_cast Nat.pos_of_ne_zero hden
  have hlow {n : Nat} (h : n ≠ 0) : (2 : ℚ) ^ (n.log2 : ℤ) ≤ n := by
    exact_mod_cast Nat.log2_self_le h
  have hhigh (n : Nat) : (n : ℚ) < 2 ^ ((n.log2 : ℤ) + 1) := by
    exact_mod_cast Nat.lt_log2_self (n := n)
  constructor
  · rw [le_div_iff₀ hpos]
    calc (2 : ℚ) ^ ((num.log2 : ℤ) - den.log2 - 1) * den
        ≤ 2 ^ ((num.log2 : ℤ) - den.log2 - 1) * 2 ^ ((den.log2 : ℤ) + 1) :=
          mul_le_mul_of_nonneg_left (hhigh den).le (by positivity)
      _ = 2 ^ (num.log2 : ℤ) := by
          rw [← zpow_add₀ two_ne_zero]
          congr 1
          omega
      _ ≤ num := hlow hnum
  · rw [div_lt_iff₀ hpos]
    calc (num : ℚ) < 2 ^ ((num.log2 : ℤ) + 1) := hhigh num
      _ = 2 ^ ((num.log2 : ℤ) - den.log2 + 1) * 2 ^ (den.log2 : ℤ) := by
          rw [← zpow_add₀ two_ne_zero]
          congr 1
          omega
      _ ≤ 2 ^ ((num.log2 : ℤ) - den.log2 + 1) * den :=
          mul_le_mul_of_nonneg_left (hlow hden) (by positivity)

/-- Whether a quotient reaches a power of two, in natural numbers. -/
theorem two_zpow_le_div_iff (hden : den ≠ 0) (e : ℤ) :
    (2 : ℚ) ^ e ≤ num / den ↔ den * Nat.pow 2 e.toNat ≤ num * Nat.pow 2 (-e).toNat := by
  have hpos : (0 : ℚ) < den := by exact_mod_cast Nat.pos_of_ne_zero hden
  have hscale : (0 : ℚ) < (Nat.pow 2 (-e).toNat : ℕ) := by exact_mod_cast Nat.pow_pos two_pos
  rw [two_zpow_eq, div_le_div_iff₀ hscale hpos, mul_comm]
  norm_cast

/-- The leading bit of a quotient. -/
theorem quotientLog_spec (hnum : num ≠ 0) (hden : den ≠ 0) :
    (2 : ℚ) ^ quotientLog num den ≤ num / den ∧
      (num / den : ℚ) < 2 ^ (quotientLog num den + 1) := by
  obtain ⟨hlow, hhigh⟩ := log2_sub_spec hnum hden
  unfold quotientLog
  generalize (num.log2 : ℤ) - den.log2 = guess at hlow hhigh
  -- The guess is right if the quotient reaches that power, and one too large if not.
  have hreached : (if 0 ≤ guess then den * Nat.pow 2 guess.toNat ≤ num
      else den ≤ num * Nat.pow 2 (-guess).toNat) ↔ (2 : ℚ) ^ guess ≤ num / den := by
    rw [two_zpow_le_div_iff hden]
    split
    · next h =>
        have hzero : (-guess).toNat = 0 := by omega
        simp [hzero]
    · next h =>
        have hzero : guess.toNat = 0 := by omega
        simp [hzero]
  simp only [hreached]
  split
  · next h => exact ⟨h, hhigh⟩
  · next h => exact ⟨hlow, by simpa using h⟩

/-! ### Units of the last place -/

/-- The exponent of the unit of the last place of a quotient. -/
def unitOf (num den : Nat) : ℤ := max (quotientLog num den - 52) (-1074)

/-- The whole number nearest to a quotient, the even one of two equally near. -/
def nearestWhole (n d : Nat) : Nat :=
  if 2 * (n % d) > d || (2 * (n % d) == d && n / d % 2 == 1) then n / d + 1 else n / d

/-- How many units of the last place are nearest to a quotient. -/
def unitsOf (num den : Nat) : Nat :=
  nearestWhole (num * Nat.pow 2 (-unitOf num den).toNat) (den * Nat.pow 2 (unitOf num den).toNat)

/-- The bits of a quotient, by its unit and the number of its units. -/
theorem quotientBits_eq (hnum : num ≠ 0) :
    quotientBits num den = (unitOf num den + 1074).toNat * binade + unitsOf num den := by
  simp only [quotientBits, if_neg hnum]
  rfl

/-- The nearest whole number is not further away than one half. -/
theorem abs_nearestWhole_sub_le {n d : Nat} (hd : d ≠ 0) :
    |(nearestWhole n d : ℚ) - n / d| ≤ 1 / 2 := by
  have hpos : (0 : ℚ) < d := by exact_mod_cast Nat.pos_of_ne_zero hd
  have hn : (n : ℚ) = d * (n / d : ℕ) + (n % d : ℕ) := by exact_mod_cast (Nat.div_add_mod n d).symm
  have hdiv : (n / d : ℚ) = (n / d : ℕ) + (n % d : ℕ) / d := by
    rw [hn]
    field_simp
  have hmod : ((n % d : ℕ) : ℚ) < d := by
    exact_mod_cast Nat.mod_lt n (Nat.pos_of_ne_zero hd)
  have hrest : (0 : ℚ) ≤ (n % d : ℕ) / d := by positivity
  rw [hdiv, abs_le]
  unfold nearestWhole
  split
  · next hup =>
      have hhalf : d ≤ 2 * (n % d) := by
        simp only [Bool.or_eq_true, Bool.and_eq_true, decide_eq_true_eq, beq_iff_eq] at hup
        omega
      have hhalf : (1 / 2 : ℚ) ≤ (n % d : ℕ) / d := by
        rw [div_le_div_iff₀ two_pos hpos]
        exact_mod_cast (by omega : 1 * d ≤ n % d * 2)
      have hone : ((n % d : ℕ) / d : ℚ) < 1 := (div_lt_one hpos).mpr hmod
      push_cast
      constructor <;> linarith
  · next hdown =>
      have hhalf : 2 * (n % d) ≤ d := by
        simp only [Bool.or_eq_true, Bool.and_eq_true, decide_eq_true_eq, beq_iff_eq] at hdown
        omega
      have hhalf : ((n % d : ℕ) / d : ℚ) ≤ 1 / 2 := by
        rw [div_le_div_iff₀ hpos two_pos]
        exact_mod_cast (by omega : n % d * 2 ≤ 1 * d)
      constructor <;> linarith

/-- A number of units of the last place that is nearest to a quotient. The number fills a
significand, unless the unit is the smallest one. -/
structure Rounded (v : ℚ) (unit : ℤ) (units : ℕ) : Prop where
  near : |units * 2 ^ unit - v| ≤ 2 ^ unit / 2
  fits : units ≤ 2 ^ 53
  fills : unit = -1074 ∨ 2 ^ (unit + 52) ≤ v ∧ 2 ^ 52 ≤ units

/-- A quotient in units of its last place. -/
theorem div_two_zpow_eq (num den : Nat) (u : ℤ) :
    ((num * Nat.pow 2 (-u).toNat : ℕ) : ℚ) / (den * Nat.pow 2 u.toNat : ℕ) = num / den / 2 ^ u := by
  rw [two_zpow_eq u, Nat.cast_mul, Nat.cast_mul]
  field_simp

/-- The number of units of a quotient is the nearest one. -/
theorem rounded_unitsOf (hnum : num ≠ 0) (hden : den ≠ 0) :
    Rounded (num / den) (unitOf num den) (unitsOf num den) := by
  obtain ⟨hlow, hhigh⟩ := quotientLog_spec hnum hden
  have hunit : quotientLog num den - 52 ≤ unitOf num den := le_max_left _ _
  have hfills : unitOf num den = -1074 ∨ unitOf num den + 52 = quotientLog num den := by
    unfold unitOf
    omega
  have hd : den * Nat.pow 2 (unitOf num den).toNat ≠ 0 :=
    Nat.mul_ne_zero hden (Nat.pow_pos two_pos).ne'
  have hnear := abs_nearestWhole_sub_le (n := num * Nat.pow 2 (-unitOf num den).toNat) hd
  rw [div_two_zpow_eq, ← unitsOf] at hnear
  generalize unitOf num den = u at *
  generalize (num / den : ℚ) = v at *
  generalize unitsOf num den = s at *
  have hpos : (0 : ℚ) < 2 ^ u := by positivity
  have hscale : (s : ℚ) * 2 ^ u - v = (s - v / 2 ^ u) * 2 ^ u := by field_simp
  obtain ⟨hbelow, habove⟩ := abs_le.mp hnear
  refine ⟨?_, ?_, ?_⟩
  · rw [hscale, abs_mul, abs_of_pos hpos]
    calc |(s : ℚ) - v / 2 ^ u| * 2 ^ u ≤ 1 / 2 * 2 ^ u := mul_le_mul_of_nonneg_right hnear hpos.le
      _ = 2 ^ u / 2 := by ring
  · have hv : v / 2 ^ u < 2 ^ 53 := by
      rw [div_lt_iff₀ hpos, ← zpow_natCast, ← zpow_add₀ two_ne_zero]
      exact hhigh.trans_le (two_zpow_le (by omega))
    have hs : (s : ℚ) < ((2 ^ 53 + 1 : ℕ) : ℚ) := by
      push_cast
      linarith
    exact Nat.lt_succ_iff.mp (by exact_mod_cast hs)
  · refine hfills.imp_right fun hlog => ?_
    have hv : (2 : ℚ) ^ (u + 52) ≤ v := hlog ▸ hlow
    have hscaled : (2 : ℚ) ^ 52 ≤ v / 2 ^ u := by
      rw [le_div_iff₀ hpos, ← zpow_natCast, ← zpow_add₀ two_ne_zero, add_comm]
      exact hv
    have hs : ((2 ^ 52 : ℕ) : ℚ) < ((s + 1 : ℕ) : ℚ) := by
      push_cast
      linarith
    exact ⟨hv, Nat.lt_succ_iff.mp (by exact_mod_cast hs)⟩

/-! ### Magnitudes -/

namespace Binary64

/-- The magnitude of a number. -/
def magnitude (x : Binary64) : ℚ := x.mantissa * 2 ^ x.exponent

/-- The magnitude of a number is its ratio. -/
theorem magnitude_eq_ratio (x : Binary64) : x.magnitude = x.ratio.1 / x.ratio.2 := by
  unfold magnitude ratio
  rw [two_zpow_eq, Nat.cast_mul, mul_div_assoc]

/-- The denominator of a ratio is positive. -/
theorem ratio_pos (x : Binary64) : 0 < x.ratio.2 := Nat.pow_pos two_pos

/-- The bits of a number say how many units of the last place it has. A number of units that is one
too many for a significand gives the bits of the next binade. -/
theorem magnitude_of_bits {x : Binary64} {place units : ℕ}
    (hbits : x.bits = place * binade + units) (hfits : units ≤ 2 ^ 53)
    (hfills : place = 0 ∨ 2 ^ 52 ≤ units) :
    x.magnitude = units * 2 ^ ((place : ℤ) - 1074) := by
  rw [binade_eq] at hbits
  unfold magnitude mantissa exponent
  rw [binade_eq]
  rcases Nat.lt_or_ge units (2 ^ 52) with hlt | hge
  · obtain rfl : place = 0 := hfills.resolve_right (by omega)
    have hsmall : x.bits = units := by omega
    have hdiv : units / 2 ^ 52 = 0 := by omega
    rw [hsmall, if_pos hlt, hdiv]
    norm_num
  · have hlarge : ¬ x.bits < 2 ^ 52 := by omega
    rw [if_neg hlarge]
    rcases hfits.lt_or_eq with hlt | rfl
    · have hdiv : x.bits / 2 ^ 52 = place + 1 := by omega
      have hmod : 2 ^ 52 + x.bits % 2 ^ 52 = units := by omega
      have hexponent : ((max (place + 1) 1 : ℕ) : ℤ) - 1075 = (place : ℤ) - 1074 := by omega
      rw [hdiv, hmod, hexponent]
    · have hdiv : x.bits / 2 ^ 52 = place + 2 := by omega
      have hmod : 2 ^ 52 + x.bits % 2 ^ 52 = 2 ^ 52 := by omega
      have hexponent : ((max (place + 2) 1 : ℕ) : ℤ) - 1075 = 1 + ((place : ℤ) - 1074) := by omega
      rw [hdiv, hmod, hexponent, zpow_add₀ two_ne_zero]
      norm_num
      ring

end Binary64

/-- A quotient is rounded to a number near it. -/
theorem Rounded.of_ofQuotient? (hnum : num ≠ 0) (hden : den ≠ 0) {negative : Bool} {x : Binary64}
    (h : Binary64.ofQuotient? negative num den = some x) :
    x.negative = negative ∧
      ∃ (unit : ℤ) (units : ℕ),
        x.magnitude = units * 2 ^ unit ∧ Rounded (num / den) unit units := by
  unfold Binary64.ofQuotient? at h
  split at h
  · obtain rfl := Option.some.inj h
    have hrounded := rounded_unitsOf hnum hden
    have hplace : ((unitOf num den + 1074).toNat : ℤ) - 1074 = unitOf num den := by
      unfold unitOf
      omega
    have hfills : (unitOf num den + 1074).toNat = 0 ∨ 2 ^ 52 ≤ unitsOf num den :=
      hrounded.fills.imp (by omega) And.right
    refine ⟨rfl, unitOf num den, unitsOf num den, ?_, hrounded⟩
    rw [Binary64.magnitude_of_bits (quotientBits_eq hnum) hrounded.fits hfills, hplace]
  · exact nomatch h

/-- Only huge quotients are too large. -/
theorem le_of_ofQuotient?_eq_none (hnum : num ≠ 0) (hden : den ≠ 0) {negative : Bool}
    (h : Binary64.ofQuotient? negative num den = none) : (2 : ℚ) ^ (1023 : ℤ) ≤ num / den := by
  unfold Binary64.ofQuotient? at h
  split at h
  · exact nomatch h
  · next hover =>
      have hfits := (rounded_unitsOf hnum hden).fits
      have hbinade := binade_eq
      rw [quotientBits_eq hnum, overflowBits, hbinade] at hover
      have hlog : 1023 ≤ quotientLog num den := by
        unfold unitOf at hover
        omega
      exact (two_zpow_le hlog).trans (quotientLog_spec hnum hden).1

/-! ### Small whole numbers -/

/-- A quotient with a small denominator that is not a whole number is not very near to it either. -/
theorem gap_of_lt (num k : ℕ) (hden : den ≠ 0) (hsmall : den ≤ 10 ^ 10) :
    ((num / den : ℚ) < k → (num / den : ℚ) + 1 / 10 ^ 10 ≤ k) ∧
      ((k : ℚ) < num / den → (k : ℚ) + 1 / 10 ^ 10 ≤ num / den) := by
  have hpos : (0 : ℚ) < den := by exact_mod_cast Nat.pos_of_ne_zero hden
  have hstep : (1 / 10 ^ 10 : ℚ) ≤ 1 / den :=
    one_div_le_one_div_of_le hpos (by exact_mod_cast hsmall)
  constructor
  · intro h
    have hnum : num + 1 ≤ k * den := by exact_mod_cast (div_lt_iff₀ hpos).mp h
    have hk : ((num + 1 : ℕ) / den : ℚ) ≤ k := (div_le_iff₀ hpos).mpr (by exact_mod_cast hnum)
    push_cast at hk
    rw [add_div] at hk
    linarith
  · intro h
    have hnum : k * den + 1 ≤ num := by exact_mod_cast (lt_div_iff₀ hpos).mp h
    have hk : ((k * den + 1 : ℕ) / den : ℚ) ≤ num / den :=
      div_le_div_of_nonneg_right (by exact_mod_cast hnum) hpos.le
    push_cast at hk
    rw [add_div, mul_div_cancel_right₀ _ hpos.ne'] at hk
    linarith

namespace Rounded

variable {unit : ℤ} {units : ℕ}

/-- A whole number is rounded to itself. -/
theorem eq_of_whole {k : ℕ} (h : Rounded k unit units) (hunit : unit ≤ 0) :
    (units : ℚ) * 2 ^ unit = k := by
  have hpos : (0 : ℚ) < 2 ^ unit := by positivity
  obtain ⟨n, hn⟩ := Int.eq_ofNat_of_zero_le (Int.neg_nonneg_of_nonpos hunit)
  have hwhole : (k : ℚ) = (k * 2 ^ n : ℕ) * 2 ^ unit := by
    obtain rfl : unit = -(n : ℤ) := by omega
    push_cast
    rw [zpow_neg, zpow_natCast]
    field_simp
  have hnear := h.near
  rw [hwhole, ← sub_mul, abs_mul, abs_of_pos hpos, div_eq_mul_one_div, mul_comm,
    mul_le_mul_iff_right₀ hpos, abs_le] at hnear
  have hle : (units : ℚ) < ((k * 2 ^ n + 1 : ℕ) : ℚ) := by
    push_cast at hnear ⊢
    linarith
  have hge : ((k * 2 ^ n : ℕ) : ℚ) < ((units + 1 : ℕ) : ℚ) := by
    push_cast at hnear ⊢
    linarith
  have heq : units = k * 2 ^ n :=
    Nat.le_antisymm (Nat.lt_succ_iff.mp (by exact_mod_cast hle))
      (Nat.lt_succ_iff.mp (by exact_mod_cast hge))
  rw [heq, hwhole]

/-- What fills its significand with large units is large, before and after rounding. -/
theorem large {v : ℚ} (h : Rounded v unit units) (hunit : -36 ≤ unit) :
    2 ^ 16 ≤ v ∧ (2 ^ 16 : ℚ) ≤ units * 2 ^ unit := by
  obtain ⟨hv, hunits⟩ := h.fills.resolve_left (by omega)
  have hlarge : (2 ^ 16 : ℚ) ≤ 2 ^ (unit + 52) := by
    exact_mod_cast two_zpow_le (show (16 : ℤ) ≤ unit + 52 by omega)
  refine ⟨hlarge.trans hv, hlarge.trans ?_⟩
  have hcast : (2 : ℚ) ^ (52 : ℤ) ≤ units := by exact_mod_cast hunits
  rw [add_comm, zpow_add₀ two_ne_zero]
  exact mul_le_mul_of_nonneg_right hcast (by positivity)

/-- A quotient with a small denominator that is rounded stays on its side of every small whole
number. -/
theorem side {k : ℕ} (h : Rounded (num / den) unit units) (hden : den ≠ 0) (hsmall : den ≤ 10 ^ 10)
    (hk : k < 2 ^ 16) :
    ((units : ℚ) * 2 ^ unit < k ↔ (num / den : ℚ) < k) ∧
      ((k : ℚ) < units * 2 ^ unit ↔ (k : ℚ) < num / den) := by
  rcases lt_or_ge unit (-36) with hfine | hcoarse
  · obtain ⟨hbelow, habove⟩ := gap_of_lt num k hden hsmall
    have hunit : (2 : ℚ) ^ unit / 2 < 1 / 10 ^ 10 := by
      have hle := two_zpow_le (show unit ≤ -37 by omega)
      norm_num at hle ⊢
      linarith
    obtain ⟨hlow, hhigh⟩ := abs_le.mp h.near
    rcases lt_trichotomy (num / den : ℚ) k with hlt | heq | hgt
    · have := hbelow hlt
      constructor <;> constructor <;> intro <;> linarith
    · have := (heq ▸ h).eq_of_whole (by omega)
      simp [this, heq]
    · have := habove hgt
      constructor <;> constructor <;> intro <;> linarith
  · obtain ⟨hv, hm⟩ := h.large hcoarse
    have hk : (k : ℚ) < 2 ^ 16 := by exact_mod_cast hk
    constructor <;> constructor <;> intro <;> linarith

end Rounded

end IncidentRelay.Decimal
