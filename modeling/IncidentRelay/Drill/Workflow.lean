import IncidentRelay.Drill.Store

/-!
# Drills of the escalation workflow

A run of the workflow against a store and a pager that can be told to fail, on a clock that moves
only when a step says so. After each step the drill reports what came of it, the pages made and the
records written during it, and the keys that are present.
-/

namespace IncidentRelay

/-- A page that was made, whether or not the paging service accepted it. -/
structure Page where
  at_ : Nat
  incident : String
  settings : Settings.OnCall
  deriving DecidableEq

/-- The services of a workflow drill. -/
structure Drill where
  store : DrillStore := {}
  /-- What the pager answers. -/
  pagerFailure : Option PagingError := none
  /-- The pages made, last first. -/
  pages : List Page := []

namespace Drill

/-- A step of a drill. -/
inductive Step
  | start (incident : String) (settings : Settings.OnCall)
  | acknowledge (incident : String)
  | advance (seconds : Nat)
  | setStore (mode : StoreMode)
  | setPager (failure : Option PagingError)

/-- What came of a step. -/
inductive Outcome
  | started (r : Except OnCallError Started)
  | acknowledged (r : Except OnCallError Unit)
  | nothing

/-- The report on a step. -/
structure Report where
  outcome : Outcome
  /-- The pages made during the step, in the order of time and then of incidents. -/
  pages : List Page
  written : List Written
  pending : List String

/-- The services of a drill: there are no channels. -/
def services : Services Empty Drill where
  put now key marker ttl d :=
    let (r, s) := d.store.put now key marker ttl
    (r, { d with store := s })
  present now key d :=
    let (r, s) := d.store.present now key
    (r, { d with store := s })
  remove _ key d :=
    let (r, s) := d.store.remove key
    (r, { d with store := s })
  page now incident settings d :=
    let d := { d with pages := ⟨now, incident, settings⟩ :: d.pages }
    match d.pagerFailure with
    | some e => (.error e, d)
    | none => (.ok (), d)
  send _ c := nomatch c

/-- Does what a step says. -/
def perform (w : World Drill) : Step → Outcome × World Drill
  | .start incident settings =>
    let (r, w) := w.perform services (Escalation.start incident settings)
    (.started r, w)
  | .acknowledge incident =>
    let (r, w) := w.perform services (Escalation.acknowledge incident)
    (.acknowledged r, w)
  | .advance seconds => (.nothing, w.advance services seconds)
  | .setStore mode =>
    (.nothing, { w with outside := { w.outside with store := { w.outside.store with mode } } })
  | .setPager failure =>
    (.nothing, { w with outside := { w.outside with pagerFailure := failure } })

/-- The order of pages in a report. -/
def Page.le (p q : Page) : Bool := p.at_ < q.at_ || (p.at_ == q.at_ && p.incident ≤ q.incident)

/-- Does what a step says and reports on it. -/
def step (w : World Drill) (s : Step) : Report × World Drill :=
  let fresh : Drill :=
    { w.outside with pages := [], store := { w.outside.store with written := [] } }
  let (outcome, w) := perform { w with outside := fresh } s
  ({ outcome
     pages := w.outside.pages.reverse.mergeSort Page.le
     written := w.outside.store.written.reverse
     pending := w.outside.store.records.keys (w.outside.store.instant w.now) }, w)

/-- Runs a drill from the start, to the reports on its steps and the world at its end. -/
def runFrom (w : World Drill) : List Step → List Report × World Drill
  | [] => ([], w)
  | s :: rest =>
    let (r, w) := step w s
    let (rs, w) := runFrom w rest
    (r :: rs, w)

/-- Runs a drill over a store whose records do not run out. -/
def run (steps : List Step) : List Report × World Drill := runFrom { outside := {} } steps

end Drill

end IncidentRelay
