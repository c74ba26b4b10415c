import IncidentRelay.Decimal.FloatText
import IncidentRelay.Proofs.Decimal.Nearest
import Mathlib.Algebra.Order.Floor.Semifield
import Mathlib.Data.Rat.Floor

/-!
# Plain numerals

Numerals as people write them: an optional sign, digits, and optionally a point with further digits.
Such a text stands for a rational number, and reading it as a floating-point text gives the number
nearest to that, however many digits it has.

## Main statements

* `PlainNumeral.float?_text`: a plain numeral is read as its digits over a power of ten.
* `PlainNumeral.nearest_read`: with few places after the point, what is read is on the same side of
  every small whole number as the numeral.
-/

namespace IncidentRelay.Decimal

open Text

/-! ### Rows of digits -/

/-- A digit is worth nine at the most. -/
theorem digitValue_le {c : Char} (h : isDigit c = true) : digitValue c ≤ 9 := by
  simp only [isDigit, Bool.and_eq_true, decide_eq_true_eq] at h
  have hle : c.toNat ≤ '9'.toNat := h.2
  have hnine : '9'.toNat = 57 := rfl
  have hzero : '0'.toNat = 48 := rfl
  unfold digitValue
  omega

/-- The value of digits one after the other. -/
theorem digitsValue_append (front back : List Char) :
    digitsValue (front ++ back) = digitsValue front * 10 ^ back.length + digitsValue back := by
  induction back using List.reverseRecOn with
  | nil => simp [digitsValue]
  | append_singleton back c ih =>
      rw [← List.append_assoc, digitsValue_append_singleton, digitsValue_append_singleton, ih,
        List.length_append, List.length_singleton]
      ring

/-- A row of digits stands for less than the power of ten of its length. -/
theorem digitsValue_lt {cs : List Char} (h : cs.all isDigit = true) :
    digitsValue cs < 10 ^ cs.length := by
  induction cs using List.reverseRecOn with
  | nil => simp [digitsValue]
  | append_singleton cs c ih =>
      simp only [List.all_append, List.all_cons, List.all_nil, Bool.and_true, Bool.and_eq_true] at h
      have hfront := ih h.1
      have hlast := digitValue_le h.2
      rw [digitsValue_append_singleton, List.length_append, List.length_singleton, pow_succ]
      omega

/-! ### Plain numerals -/

/-- The sign in front of a numeral. -/
inductive Sign
  | absent
  | plus
  | minus
  deriving DecidableEq

/-- How a sign is written. -/
def Sign.text : Sign → List Char
  | absent => []
  | plus => ['+']
  | minus => ['-']

/-- Digits with an optional sign in front, and optionally a point and further digits behind. -/
structure PlainNumeral where
  sign : Sign
  whole : List Char
  /-- The digits after the point, if there is a point. -/
  fraction : Option (List Char)
  whole_ne_nil : whole ≠ [] := by decide
  whole_digits : whole.all isDigit = true := by decide
  fraction_digits : (fraction.getD []).all isDigit = true := by decide

namespace PlainNumeral

/-- The text of a numeral. -/
def text (n : PlainNumeral) : String :=
  String.ofList (n.sign.text ++ n.whole ++ n.fraction.elim [] ('.' :: ·))

/-- The digits after the point. -/
def fractionDigits (n : PlainNumeral) : List Char := n.fraction.getD []

/-- How many digits there are after the point. -/
def places (n : PlainNumeral) : Nat := n.fractionDigits.length

/-- The number that a numeral stands for without its sign. -/
def size (n : PlainNumeral) : ℚ :=
  digitsValue n.whole + digitsValue n.fractionDigits / 10 ^ n.places

/-- The number that a numeral stands for. -/
def value (n : PlainNumeral) : ℚ := if n.sign = .minus then -n.size else n.size

/-- All digits of a numeral as one number. -/
def digits (n : PlainNumeral) : Nat := digitsValue (n.whole ++ n.fractionDigits)

variable (n : PlainNumeral)

/-- The digits of a numeral, from those before and after its point. -/
theorem digits_eq : n.digits = digitsValue n.whole * 10 ^ n.places + digitsValue n.fractionDigits :=
  digitsValue_append ..

/-- The size of a numeral is the number of its digits, with the point where it stands. -/
theorem size_eq : n.size = n.digits / (10 ^ n.places : ℕ) := by
  have hpos : (0 : ℚ) < 10 ^ n.places := by positivity
  rw [size, digits_eq]
  push_cast
  rw [add_div, mul_div_cancel_right₀ _ hpos.ne']

/-- No size is negative. -/
theorem size_nonneg : 0 ≤ n.size := by
  unfold size
  positivity

/-- The digits in front of the point are what is left without the fraction. -/
theorem floor_size : ⌊n.size⌋₊ = digitsValue n.whole := by
  have hfraction : digitsValue n.fractionDigits < 10 ^ n.places := digitsValue_lt n.fraction_digits
  rw [size_eq, Nat.floor_div_eq_div, digits_eq, Nat.mul_comm, Nat.mul_add_div (by positivity),
    Nat.div_eq_of_lt hfraction, Nat.add_zero]

/-! ### Reading plain numerals -/

/-- The numeral as it is read. -/
def read : Numeral := ⟨n.sign = .minus, n.digits, -n.places⟩

/-- A row of digits ends where no digit follows. -/
theorem span_digits {ds : List Char} (hds : ds.all isDigit = true) (rest : List Char)
    (hrest : rest.head?.all (!isDigit ·) = true) :
    (ds ++ rest).takeWhile isDigit = ds ∧ (ds ++ rest).dropWhile isDigit = rest := by
  induction ds with
  | nil =>
      cases rest with
      | nil => exact ⟨rfl, rfl⟩
      | cons c cs =>
          have hc : isDigit c = false := by simpa using hrest
          simp [hc]
  | cons d ds ih =>
      obtain ⟨hd, hds⟩ : isDigit d = true ∧ ds.all isDigit = true := by simpa using hds
      obtain ⟨htake, hdrop⟩ := ih hds
      simp [hd, htake, hdrop]

/-- The digits of a numeral are all read, and nothing else. -/
theorem magnitude?_text (negative : Bool) :
    magnitude? negative (n.whole ++ n.fraction.elim [] ('.' :: ·)) =
      some ⟨negative, n.digits, -n.places⟩ := by
  have hwhole := n.whole_ne_nil
  have hfraction := n.fraction_digits
  unfold magnitude? digits places fractionDigits
  generalize n.fraction = fraction at hfraction ⊢
  cases fraction with
  | none =>
      obtain ⟨htake, hdrop⟩ := span_digits n.whole_digits [] rfl
      simp only [Option.elim_none, htake, hdrop, hwhole, false_and, if_false]
      rfl
  | some ds =>
      obtain ⟨htake, hdrop⟩ := span_digits n.whole_digits ('.' :: ds) rfl
      obtain ⟨htake', hdrop'⟩ := span_digits hfraction [] rfl
      rw [Option.getD_some, List.append_nil] at htake' hdrop'
      simp only [Option.elim_some, htake, hdrop, htake', hdrop', hwhole, false_and, if_false]
      simp [exponentPart?]

/-- A text that begins with a digit is no name of a number. -/
theorem ofList_ne_name {c : Char} (h : isDigit c = true) (cs : List Char) (name : String)
    (hname : name ∈ ["inf", "infinity", "nan"]) :
    String.ofList ((c :: cs).map lowerAscii) ≠ name := by
  have hlower : isDigit (lowerAscii c) = true := by
    simp only [isDigit, Bool.and_eq_true, decide_eq_true_eq] at h
    have hcapital : ¬('A' ≤ c ∧ c ≤ 'Z') := fun hc =>
      absurd (Char.le_trans hc.1 h.2) (by decide)
    rw [lowerAscii, if_neg hcapital]
    simpa [isDigit] using h
  rintro rfl
  have hhead :
      isDigit ((String.ofList ((c :: cs).map lowerAscii)).toList.head?.getD 'i') = true := by
    simpa using hlower
  generalize String.ofList ((c :: cs).map lowerAscii) = name at hname hhead
  simp only [List.mem_cons, List.not_mem_nil, or_false] at hname
  rcases hname with rfl | rfl | rfl <;> exact absurd hhead (by decide)

/-- Behind an optional sign a text that begins with a digit is read for its magnitude. -/
theorem float?_of_digit (sign : Sign) {c : Char} (h : isDigit c = true) (cs : List Char) :
    float? (String.ofList (sign.text ++ c :: cs)) =
      (magnitude? (sign = .minus) (c :: cs)).map fun m => .number m.nearest := by
  have hminus : c ≠ '-' := by
    rintro rfl
    exact absurd h (by decide)
  have hplus : c ≠ '+' := by
    rintro rfl
    exact absurd h (by decide)
  have hinf := ofList_ne_name h cs "inf" (by decide)
  have hinfinity := ofList_ne_name h cs "infinity" (by decide)
  have hnan := ofList_ne_name h cs "nan" (by decide)
  unfold float?
  rw [String.toList_ofList]
  cases sign with
  | absent =>
      dsimp only [Sign.text, List.nil_append]
      split
      · next heq => exact absurd (List.cons.inj heq).1 hminus
      · next heq => exact absurd (List.cons.inj heq).1 hplus
      · simp only [hinf, hinfinity, hnan, or_self, if_false]
        rfl
  | plus | minus =>
      simp only [Sign.text, List.cons_append, List.nil_append, hinf, hinfinity, hnan, or_self,
        if_false]
      rfl

/-- A plain numeral is read as its digits over a power of ten. -/
theorem float?_text : float? n.text = some (.number n.read.nearest) := by
  obtain ⟨c, cs, hwhole⟩ := List.exists_cons_of_ne_nil n.whole_ne_nil
  have hc : isDigit c = true := by
    have hdigits := n.whole_digits
    rw [hwhole, List.all_cons, Bool.and_eq_true] at hdigits
    exact hdigits.1
  have hmagnitude := n.magnitude?_text (n.sign = .minus)
  rw [hwhole, List.cons_append] at hmagnitude
  rw [text, hwhole, List.append_assoc, List.cons_append, float?_of_digit n.sign hc, hmagnitude]
  rfl

/-- A numeral with hundreds of digits in front of its point is large. -/
theorem le_size_of_length (h : 400 + n.places < (Nat.toDigits 10 n.digits).length) :
    (2 ^ 16 : ℚ) ≤ n.size := by
  have hdigits : 10 ^ (400 + n.places) ≤ n.digits := by
    by_contra hlt
    have hle := (Nat.length_toDigits_le_iff (by decide) (by omega)).mpr (Nat.lt_of_not_le hlt)
    omega
  have hpow : 2 ^ 16 * 10 ^ n.places ≤ 10 ^ (400 + n.places) := by
    calc 2 ^ 16 * 10 ^ n.places ≤ 10 ^ 5 * 10 ^ n.places := Nat.mul_le_mul_right _ (by decide)
      _ ≤ 10 ^ (400 + n.places) := by
          rw [← pow_add]
          exact Nat.pow_le_pow_right (by decide) (by omega)
  have hpos : (0 : ℚ) < (10 ^ n.places : ℕ) := by positivity
  rw [size_eq, le_div_iff₀ hpos]
  exact_mod_cast hpow.trans hdigits

/-- What is read of a plain numeral with at most ten places is on the same side of every small whole
number as the numeral. Only large numerals are too large to be read. -/
theorem nearest_read (h : n.places ≤ 10) :
    (∃ x, n.read.nearest = .finite x ∧ x.negative = decide (n.sign = .minus) ∧
        ∀ k : ℕ, k < 2 ^ 16 →
          (x.magnitude < k ↔ n.size < k) ∧ ((k : ℚ) < x.magnitude ↔ (k : ℚ) < n.size)) ∨
      (∃ negative, n.read.nearest = .tooLarge negative) ∧ 2 ^ 16 ≤ n.size := by
  have hsize := n.size_eq
  by_cases hdigits : n.digits = 0
  · refine .inl ⟨_, by rw [read, hdigits, nearest_zero], rfl, ?_⟩
    have hzero : n.size = 0 := by simp [hsize, hdigits]
    intro k _
    simp [hzero, Binary64.magnitude, Binary64.mantissa, Binary64.zero, binade]
  have hden : 10 ^ n.places ≠ 0 := by positivity
  have hsmall : 10 ^ n.places ≤ 10 ^ 10 := Nat.pow_le_pow_right (by decide) h
  have hlength : 0 < (Nat.toDigits 10 n.digits).length := Nat.length_toDigits_pos
  have hnotTiny : ¬(n.digits = 0 ∨ ((Nat.toDigits 10 n.digits).length + -n.places : ℤ) < -400) := by
    omega
  have hone : Nat.pow 10 0 = 1 := rfl
  unfold Numeral.nearest read
  simp only [if_neg hnotTiny, Int.toNat_neg_natCast, neg_neg, Int.toNat_natCast, hone, Nat.mul_one]
  split
  · next hlong => exact .inr ⟨⟨_, rfl⟩, n.le_size_of_length (by omega)⟩
  · split
    · next x hx =>
        obtain ⟨hnegative, unit, units, hmagnitude, hrounded⟩ :=
          Rounded.of_ofQuotient? hdigits hden hx
        refine .inl ⟨x, rfl, hnegative, fun k hk => ?_⟩
        rw [hmagnitude, hsize]
        exact hrounded.side hden hsmall hk
    · next hover =>
        refine .inr ⟨⟨_, rfl⟩, ?_⟩
        rw [hsize]
        refine le_trans ?_ (le_of_ofQuotient?_eq_none hdigits hden hover)
        exact_mod_cast two_zpow_le (show (16 : ℤ) ≤ 1023 by decide)

end PlainNumeral

end IncidentRelay.Decimal
