import IncidentRelay.Drill.Workflow
import IncidentRelay.Proofs.Calls

/-!
# Runs of drills

How a drill goes on from step to step. What a step reports is about that step alone, so each begins
with a world in which nothing has been paged or written yet.

## Main statements

* `Drill.runFrom_cons`, `Drill.runFrom_append`: a run in parts.
* `Drill.now_le_step`: the clock never goes back.
-/

namespace IncidentRelay

namespace Drill

/-- The world at the beginning of a step: nothing has been paged or written during it. -/
def fresh (w : World Drill) : World Drill :=
  { w with outside := { w.outside with
      pages := [], store := { w.outside.store with written := [] } } }

/-- The report on a step that has come to `outcome` in the world `w`. -/
def report (outcome : Outcome) (w : World Drill) : Report where
  outcome
  pages := w.outside.pages.reverse.mergeSort Page.le
  written := w.outside.store.written.reverse
  pending := w.outside.store.records.keys (w.outside.store.instant w.now)

/-- A step puts aside what was reported, is performed, and reports. -/
theorem step_eq (w : World Drill) (s : Step) :
    step w s = (report (perform (fresh w) s).1 (perform (fresh w) s).2, (perform (fresh w) s).2) :=
  rfl

/-- A report shows the pages that were made during its step, in another order. -/
theorem pages_step_perm (w : World Drill) (s : Step) :
    (step w s).1.pages.Perm (step w s).2.outside.pages :=
  (List.mergeSort_perm _ _).trans (List.reverse_perm _)

/-- The steps of a run, each with the report on it. -/
def trace (w : World Drill) (steps : List Step) : List (Step × Report) :=
  steps.zip (runFrom w steps).1

theorem runFrom_cons (w : World Drill) (s : Step) (rest : List Step) :
    runFrom w (s :: rest) =
      ((step w s).1 :: (runFrom (step w s).2 rest).1, (runFrom (step w s).2 rest).2) := rfl

theorem trace_cons (w : World Drill) (s : Step) (rest : List Step) :
    trace w (s :: rest) = (s, (step w s).1) :: trace (step w s).2 rest := rfl

/-- A run in two parts. -/
theorem runFrom_append (w : World Drill) (front back : List Step) :
    runFrom w (front ++ back) =
      ((runFrom w front).1 ++ (runFrom (runFrom w front).2 back).1,
        (runFrom (runFrom w front).2 back).2) := by
  induction front generalizing w with
  | nil => rfl
  | cons s rest ih => simp only [List.cons_append, runFrom, ih]

/-- The clock never goes back. -/
theorem now_le_step (w : World Drill) (s : Step) : w.now ≤ (step w s).2.now := by
  cases s with
  | start i settings =>
      exact Nat.le_of_eq (World.now_perform services (Escalation.start i settings) (fresh w)).symm
  | acknowledge i =>
      exact Nat.le_of_eq (World.now_perform services (Escalation.acknowledge i) (fresh w)).symm
  | advance seconds => exact Nat.le_add_right _ _
  | setStore | setPager => exact Nat.le_refl _

end Drill

end IncidentRelay
