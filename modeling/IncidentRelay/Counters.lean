import IncidentRelay.Table

/-!
# Counters

What the service counts, under the series names of its metrics page. A counter that was never
touched does not appear.

## Main statements

* `Counters.value_increment`: an event adds one to its own counter and nothing to the others.
-/

namespace IncidentRelay

/-- How a page came about. -/
inductive PagePath
  /-- On the start of an incident without an acknowledgment window. -/
  | immediate
  /-- By the check at the end of the window. -/
  | deferred
  deriving DecidableEq

/-- An event that is counted. -/
inductive Event
  | received
  | sent (channel : String)
  | sendFailed (channel : String)
  | paged (path : PagePath)
  | pageFailed (path : PagePath)
  | acknowledged
  | notFound
  deriving DecidableEq

/-- The label of a path. -/
def PagePath.label : PagePath → String
  | .immediate => "immediate"
  | .deferred => "deferred"

/-- The value of a label, quoted: backslashes, quotes and line feeds are escaped. -/
def labelValue (s : String) : String :=
  "\"" ++ String.ofList (s.toList.flatMap fun c =>
    if c = '\\' then ['\\', '\\'] else if c = '"' then ['\\', '"']
    else if c = '\n' then ['\\', 'n'] else [c]) ++ "\""

/-- A series with one label. -/
def labelled (name label value : String) : String :=
  name ++ "\x7b" ++ label ++ "=" ++ labelValue value ++ "\x7d"

/-- The series that an event belongs to. -/
def Event.series : Event → String
  | .received => "incidents_received_total"
  | .sent c => labelled "notifications_sent_total" "channel" c
  | .sendFailed c => labelled "notifications_failed_total" "channel" c
  | .paged p => labelled "escalations_total" "path" p.label
  | .pageFailed p => labelled "escalation_failures_total" "path" p.label
  | .acknowledged => labelled "acknowledgements_total" "outcome" "acknowledged"
  | .notFound => labelled "acknowledgements_total" "outcome" "not_found"

/-- How often each event happened. -/
abbrev Counters := List (Event × Nat)

namespace Counters

/-- How often an event happened. -/
def value (c : Counters) (e : Event) : Nat :=
  match c with
  | [] => 0
  | (f, n) :: rest => if f = e then n else value rest e

/-- Counts one more event. -/
def increment (c : Counters) (e : Event) : Counters :=
  match c with
  | [] => [(e, 1)]
  | (f, n) :: rest => if f = e then (f, n + 1) :: rest else (f, n) :: increment rest e

/-- Counting an event adds one to its own counter and nothing to the others. -/
theorem value_increment (c : Counters) (e f : Event) :
    (c.increment e).value f = c.value f + if e = f then 1 else 0 := by
  induction c with
  | nil => by_cases h : e = f <;> simp [increment, value, h]
  | cons x rest ih =>
    obtain ⟨g, n⟩ := x
    by_cases hg : g = e
    · by_cases hf : e = f
      · simp [increment, value, hg, hf]
      · simp [increment, value, hg, hf]
    · by_cases hf : g = f
      · subst hf
        have : ¬e = g := fun h => hg h.symm
        simp [increment, value, hg, this]
      · simp [increment, value, hg, hf, ih]

/-- The counters under their series names. -/
def table (c : Counters) : Table Nat := Table.ofList (c.map fun (e, n) => (e.series, n))

end Counters

end IncidentRelay
