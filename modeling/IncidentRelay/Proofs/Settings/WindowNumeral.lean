import IncidentRelay.Proofs.Decimal.PlainNumeral
import IncidentRelay.Settings.Override

/-!
# Acknowledgment windows as numerals

A request can ask for an acknowledgment window in minutes, as a numeral with a fraction. The numeral
is read as a binary64 number, and what is cut off is the fraction of that. With at most ten places
after the point it makes no difference: the window is the number in front of the point, and the
numerals up to thirty days are accepted, and no others.

## Main statements

* `minutesOf?_text`: the window that a plain numeral asks for.
* `Settings.window_of_numeral`: the settings of a request with a plain numeral.
-/

namespace IncidentRelay

open Decimal Text

namespace Decimal.PlainNumeral

variable (n : PlainNumeral)

/-- Numerals that can be accepted as windows. -/
def InRange : Prop := 0 ≤ n.value ∧ n.value ≤ 43200

instance : Decidable n.InRange := inferInstanceAs (Decidable (_ ∧ _))

/-- A numeral is in range if it is not too large and is not below zero. -/
theorem inRange_iff : n.InRange ↔ (n.sign = .minus → n.size = 0) ∧ n.size ≤ 43200 := by
  have hnonneg := n.size_nonneg
  unfold InRange value
  split
  · next h =>
      constructor
      · rintro ⟨hlow, -⟩
        have hzero : n.size = 0 := by linarith
        exact ⟨fun _ => hzero, by linarith⟩
      · rintro ⟨hzero, -⟩
        simp [hzero h]
  · next h => simp [h, hnonneg]

/-- The number in front of the point is the whole part of a numeral in range. -/
theorem floor_value {n : PlainNumeral} (h : n.InRange) : ⌊n.value⌋₊ = digitsValue n.whole := by
  obtain ⟨hzero, -⟩ := n.inRange_iff.mp h
  rw [← n.floor_size, value]
  split
  · next hminus => simp [hzero hminus]
  · rfl

end Decimal.PlainNumeral

/-- The window of a number that is read: its whole part, if it is neither below zero nor too
large. -/
theorem minutesOf?_of_finite {text : String} {x : Binary64}
    (h : float? text = some (.number (.finite x))) :
    minutesOf? text =
      if (x.negative → ¬ 0 < x.magnitude) ∧ ¬ (43200 : ℚ) < x.magnitude then some ⌊x.magnitude⌋₊
      else none := by
  have hpos : (0 : ℚ) < x.ratio.2 := by exact_mod_cast x.ratio_pos
  have hzero : 0 < x.magnitude ↔ x.ratio.1 ≠ 0 := by
    rw [x.magnitude_eq_ratio, div_pos_iff_of_pos_right hpos, Nat.cast_pos, Nat.pos_iff_ne_zero]
  have habove : (43200 : ℚ) < x.magnitude ↔ maxWaitMinutes * x.ratio.2 < x.ratio.1 := by
    rw [x.magnitude_eq_ratio, lt_div_iff₀ hpos]
    exact_mod_cast Iff.rfl
  have hfloor : ⌊x.magnitude⌋₊ = x.ratio.1 / x.ratio.2 := by
    rw [x.magnitude_eq_ratio, Nat.floor_div_eq_div]
  unfold minutesOf?
  simp only [h, hzero, habove, hfloor, ← not_and, ← not_or, ite_not]

/-- The window that a plain numeral asks for: the number in front of its point. -/
theorem minutesOf?_text {n : PlainNumeral} (h : n.places ≤ 10) :
    minutesOf? n.text = if n.InRange then some (digitsValue n.whole) else none := by
  have hread := n.float?_text
  have hnonneg := n.size_nonneg
  rw [if_congr n.inRange_iff rfl rfl, ← n.floor_size]
  rcases n.nearest_read h with ⟨x, hx, hnegative, hside⟩ | ⟨⟨negative, htoo⟩, hlarge⟩
  · rw [hx] at hread
    have hzero : 0 < x.magnitude ↔ 0 < n.size := by simpa using (hside 0 (by decide)).2
    have habove : 43200 < x.magnitude ↔ 43200 < n.size := by
      exact_mod_cast (hside 43200 (by decide)).2
    have haccepted : ((x.negative → ¬ 0 < x.magnitude) ∧ ¬ (43200 : ℚ) < x.magnitude) ↔
        (n.sign = .minus → n.size = 0) ∧ n.size ≤ 43200 := by
      have hsign : x.negative = true ↔ n.sign = .minus := by simp [hnegative]
      have hnot : ¬ 0 < n.size ↔ n.size = 0 := not_lt.trans hnonneg.ge_iff_eq'
      rw [hzero, habove, hsign, hnot, not_lt]
    rw [minutesOf?_of_finite hread, if_congr haccepted rfl rfl]
    refine ite_congr rfl (fun hrange => congrArg some ?_) fun _ => rfl
    -- The whole part is below the limit, so the number is on the same sides of it and of the next.
    obtain ⟨hlow, hhigh⟩ := (Nat.floor_eq_iff hnonneg).mp (Eq.refl ⌊n.size⌋₊)
    have hsmall : ⌊n.size⌋₊ ≤ 43200 := Nat.floor_le_of_le hrange.2
    refine (Nat.floor_eq_iff (by rw [x.magnitude_eq_ratio]; positivity)).mpr ⟨?_, ?_⟩
    · exact not_lt.mp fun hlt => not_lt.mpr hlow ((hside _ (by omega)).1.mp hlt)
    · have hnext := (hside (⌊n.size⌋₊ + 1) (by omega)).1
      push_cast at hnext
      exact hnext.mpr hhigh
  · rw [htoo] at hread
    have habove : ¬ n.size ≤ 43200 := by linarith
    rw [if_neg (fun hrange => habove hrange.2)]
    unfold minutesOf?
    rw [hread]

namespace Settings

/-- The parameters of a request that asks for a window alone. -/
def askingFor (n : PlainNumeral) : Params := [("oncall_wait_minutes", n.text)]

/-- The one parameter of the request is the window. -/
theorem given?_askingFor (n : PlainNumeral) (name : String) :
    (askingFor n).given? name = if name = "oncall_wait_minutes" then some n.text else none := by
  have htext : n.text ≠ "" := by
    have hwhole := n.whole_ne_nil
    rw [ne_eq, ← String.toList_inj, PlainNumeral.text, String.toList_ofList]
    simp [hwhole]
  by_cases hname : name = "oncall_wait_minutes"
  · simp [askingFor, Params.given?, Table.get?, hname, htext]
  · simp [askingFor, Params.given?, Table.get?, hname, Ne.symm hname]

/-- A window in range is taken over, with its fraction cut off. -/
theorem withOverrides_askingFor (s : Settings) {n : PlainNumeral} (h : n.places ≤ 10) :
    s.withOverrides (askingFor n) =
      if n.InRange then { s with onCall := { s.onCall with waitMinutes := digitsValue n.whole } }
      else s := by
  have hwindow : s.withOverrides (askingFor n) =
      { s with onCall := { s.onCall with
        waitMinutes := (minutesOf? n.text).getD s.onCall.waitMinutes } } := by
    simp [withOverrides, given?_askingFor]
  rw [hwindow, minutesOf?_text h]
  split <;> rfl

/-- A request that asks for a window in minutes as a decimal numeral, with at most ten places after
the point, gets the number in front of the point if the numeral is between zero and thirty days, and
otherwise the window of the service. Nothing else changes. So of two numerals in that range the
larger one never gets the shorter window. -/
theorem window_of_numeral (s : Settings) {n : PlainNumeral} (h : n.places ≤ 10) :
    s.withOverrides (askingFor n) =
        (if n.InRange then
          { s with onCall := { s.onCall with waitMinutes := digitsValue n.whole } }
        else s) ∧
      ∀ m : PlainNumeral, m.places ≤ 10 → n.InRange → m.InRange → n.value ≤ m.value →
        (s.withOverrides (askingFor n)).onCall.waitMinutes ≤
          (s.withOverrides (askingFor m)).onCall.waitMinutes := by
  refine ⟨withOverrides_askingFor s h, ?_⟩
  intro m hm hn hm' hle
  rw [withOverrides_askingFor s h, if_pos hn, withOverrides_askingFor s hm, if_pos hm']
  calc digitsValue n.whole = ⌊n.value⌋₊ := (PlainNumeral.floor_value hn).symm
    _ ≤ ⌊m.value⌋₊ := Nat.floor_le_floor hle
    _ = digitsValue m.whole := PlainNumeral.floor_value hm'

/-- The last numeral below thirty days with ten places is cut off, thirty days are accepted with a
sign and zeros in front, and one step more is ignored. -/
theorem window_of_numeral_thirty_days :
    let last : PlainNumeral :=
      { sign := .absent, whole := "43199".toList, fraction := some "9999999999".toList }
    let limit : PlainNumeral := { sign := .plus, whole := "0043200".toList, fraction := some [] }
    let above : PlainNumeral :=
      { sign := .absent, whole := "43200".toList, fraction := some "0000000001".toList }
    let window (n : PlainNumeral) : Nat :=
      (({} : Settings).withOverrides (askingFor n)).onCall.waitMinutes
    [last.text, limit.text, above.text] = ["43199.9999999999", "+0043200.", "43200.0000000001"] ∧
      window last = 43199 ∧ window limit = 43200 ∧ window above = 0 ∧
      window last ≤ window limit := by
  intro last limit above window
  have hlast : last.places ≤ 10 := by decide
  have hlimit : limit.places ≤ 10 := by decide
  have habove : above.places ≤ 10 := by decide
  obtain ⟨hlastRange, hlimitRange, hoverRange, hle⟩ :
      last.InRange ∧ limit.InRange ∧ ¬ above.InRange ∧ last.value ≤ limit.value := by
    decide +kernel
  obtain ⟨hwindow, hmono⟩ := window_of_numeral {} hlast
  have hlimitWindow := (window_of_numeral {} hlimit).1
  have hoverWindow := (window_of_numeral {} habove).1
  rw [if_pos hlastRange] at hwindow
  rw [if_pos hlimitRange] at hlimitWindow
  rw [if_neg hoverRange] at hoverWindow
  exact ⟨by decide +kernel, congrArg (·.onCall.waitMinutes) hwindow,
    congrArg (·.onCall.waitMinutes) hlimitWindow, congrArg (·.onCall.waitMinutes) hoverWindow,
    hmono limit hlimit hlastRange hlimitRange hle⟩

end Settings

end IncidentRelay
