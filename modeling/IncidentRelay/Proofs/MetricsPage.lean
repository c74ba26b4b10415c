import IncidentRelay.Metrics
import IncidentRelay.Proofs.Schedule.Alike
import Mathlib.Data.List.Basic

/-!
# Counters that differ in one event

What was counted of one event, taken out of the counters and off the page on metrics. Counters that
are the same but for that event stay so when both count the same.

## Main statements

* `Counters.SameBut.stable`: counters stay the same but for an event.
* `Counters.SameBut.value_eq`: every other event was counted as often.
* `Counters.SameBut.lines_eq`: if the event is that of what was not found, the page on metrics is
  the same but for the lines that tell of it.
-/

namespace IncidentRelay

namespace Counters

/-- The counters without what was counted of an event. -/
def without (c : Counters) (e : Event) : Counters := c.filter fun x => x.1 ≠ e

/-- The same counters but for an event. -/
def SameBut (e : Event) (c d : Counters) : Prop := d.without e = c.without e

theorem without_cons_self (e : Event) (n : Nat) (c : Counters) :
    without ((e, n) :: c) e = without c e := List.filter_cons_of_neg (by simp)

theorem without_cons_of_ne {e f : Event} (h : f ≠ e) (n : Nat) (c : Counters) :
    without ((f, n) :: c) e = (f, n) :: without c e := List.filter_cons_of_pos (by simpa using h)

theorem increment_cons_self (e : Event) (n : Nat) (c : Counters) :
    increment ((e, n) :: c) e = (e, n + 1) :: c := by
  simp only [increment, if_true]

theorem increment_cons_of_ne {e f : Event} (h : f ≠ e) (n : Nat) (c : Counters) :
    increment ((f, n) :: c) e = (f, n) :: increment c e := by
  simp only [increment, if_neg h]

/-- What is counted of the event leaves no trace in the rest. -/
theorem without_increment_self (c : Counters) (e : Event) :
    without (c.increment e) e = without c e := by
  induction c with
  | nil => exact without_cons_self e 1 []
  | cons x rest ih =>
      obtain ⟨g, n⟩ := x
      by_cases hg : g = e
      · subst hg
        rw [increment_cons_self, without_cons_self, without_cons_self]
      · rw [increment_cons_of_ne hg, without_cons_of_ne hg, without_cons_of_ne hg, ih]

/-- The rest counts every other event as before. -/
theorem without_increment_of_ne {e f : Event} (h : f ≠ e) (c : Counters) :
    without (c.increment f) e = increment (without c e) f := by
  induction c with
  | nil => exact without_cons_of_ne h 1 []
  | cons x rest ih =>
      obtain ⟨g, n⟩ := x
      by_cases hg : g = f
      · subst hg
        rw [increment_cons_self, without_cons_of_ne h, without_cons_of_ne h, increment_cons_self]
      · rw [increment_cons_of_ne hg]
        by_cases hge : g = e
        · subst hge
          rw [without_cons_self, without_cons_self, ih]
        · rw [without_cons_of_ne hge, without_cons_of_ne hge, increment_cons_of_ne hg, ih]

/-- Leaving a counter out changes no other one. -/
theorem value_without {e f : Event} (h : f ≠ e) (c : Counters) :
    value (without c e) f = value c f := by
  induction c with
  | nil => rfl
  | cons x rest ih =>
      obtain ⟨g, n⟩ := x
      by_cases hg : g = e
      · subst hg
        rw [without_cons_self, ih, value, if_neg h.symm]
      · rw [without_cons_of_ne hg, value, value, ih]

namespace SameBut

variable {e : Event} {c d : Counters}

/-- What holds up to one counter holds after any event. -/
theorem stable (e : Event) : Stable (SameBut e) := by
  intro c d f h
  have h : d.without e = c.without e := h
  rw [SameBut]
  by_cases hf : f = e
  · subst hf
    rw [without_increment_self, without_increment_self, h]
  · rw [without_increment_of_ne hf, without_increment_of_ne hf, h]

/-- Every other event was counted as often. -/
theorem value_eq (h : SameBut e c d) {f : Event} (hf : f ≠ e) : d.value f = c.value f := by
  have h : d.without e = c.without e := h
  rw [← value_without hf, h, value_without hf]

end SameBut

end Counters

/-! ### The page on metrics -/

/-- The lines in front of a family: what it counts, and its type. -/
def Family.header (f : Family) : List String :=
  ["# HELP " ++ f.name ++ " " ++ f.description, "# TYPE " ++ f.name ++ " counter"]

namespace Counters

/-- Whether a line tells of what was not found: it shows the count, or it stands in front of its
family. -/
def tellsNotFound (line : String) : Bool :=
  Family.acknowledgments.header.contains line ||
    (Event.notFound.series ++ " ").toList.isPrefixOf line.toList

/-- The lines of a page that tell of other things than what was not found. -/
def linesOfFound (c : Counters) : List String := c.lines.filter fun line => !tellsNotFound line

/-- The line of a series. -/
def line (x : Event × Nat) : String := x.1.series ++ " " ++ toString x.2

/-- A line about acknowledgments that were not found tells of them. -/
theorem tellsNotFound_line (n : Nat) : tellsNotFound (line (.notFound, n)) = true := by
  simp [tellsNotFound, line]

/-- The counters of a family. -/
def within (c : Counters) (f : Family) : Counters := c.filter fun x => Family.of x.1 == f

/-- A family shows its header and its lines, or nothing if it has none. -/
theorem familyLines_eq (c : Counters) (f : Family) :
    c.familyLines f = if (c.within f).isEmpty then [] else f.header ++ (c.within f).map line := rfl

/-- What was not found belongs to one family. -/
theorem within_without {f : Family} (hf : f ≠ .acknowledgments) (c : Counters) :
    within (c.without .notFound) f = c.within f := by
  simp only [within, without, List.filter_filter]
  refine List.filter_congr ?_
  rintro ⟨e, n⟩ -
  by_cases he : e = .notFound
  · subst he
    simp [Family.of, hf.symm]
  · simp [he]

/-- Of the family of what was not found, the other series are left. -/
theorem filter_familyLines (c : Counters) :
    (c.familyLines .acknowledgments).filter (fun l => !tellsNotFound l) =
      ((c.within .acknowledgments).map line).filter fun l => !tellsNotFound l := by
  have hheader : Family.acknowledgments.header.filter (fun l => !tellsNotFound l) = [] := by
    simp [Family.header, tellsNotFound]
  rw [familyLines_eq]
  cases c.within .acknowledgments with
  | nil => rfl
  | cons x rest => rw [List.isEmpty_cons, if_neg Bool.false_ne_true, List.filter_append, hheader,
      List.nil_append]

/-- But for the lines that tell of what was not found, the counter makes no difference. -/
theorem filter_within_without (c : Counters) :
    ((within (c.without .notFound) .acknowledgments).map line).filter (fun l => !tellsNotFound l) =
      ((c.within .acknowledgments).map line).filter fun l => !tellsNotFound l := by
  simp only [within, without, List.filter_map, List.filter_filter]
  refine congrArg _ (List.filter_congr ?_)
  rintro ⟨e, n⟩ -
  by_cases he : e = .notFound
  · subst he
    simp [tellsNotFound_line]
  · simp [he]

/-- The lines that tell of other things depend on the other counts alone. -/
theorem linesOfFound_without (c : Counters) :
    linesOfFound (c.without .notFound) = c.linesOfFound := by
  simp only [linesOfFound, lines, List.filter_flatMap]
  refine List.flatMap_congr ?_
  intro f _
  by_cases hf : f = .acknowledgments
  · subst hf
    rw [filter_familyLines, filter_familyLines, filter_within_without]
  · rw [familyLines_eq, familyLines_eq, within_without hf]

/-- If what was not found makes the difference, the page is the same but for the lines of that. -/
theorem SameBut.lines_eq {c d : Counters} (h : SameBut .notFound c d) :
    d.linesOfFound = c.linesOfFound := by
  have h : d.without .notFound = c.without .notFound := h
  rw [← linesOfFound_without, h, linesOfFound_without]

end Counters

end IncidentRelay
