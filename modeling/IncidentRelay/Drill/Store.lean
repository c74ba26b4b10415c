import IncidentRelay.Escalation.World
import IncidentRelay.Store.Memory

/-!
# A store for drills

A store in memory that can be told to fail. A failing call has no effect on the records. Whether
records run out while the drill's clock moves is a choice of the drill.

## Main statements

* `DrillStore.present_of_healthy`: a store that was told nothing behaves as the store in memory.
-/

namespace IncidentRelay

/-- What a store for drills was told to do. -/
inductive StoreMode
  | healthy
  /-- Every call fails. -/
  | unavailable
  | putFails
  | presentFails
  | removeFails
  /-- Another process is always faster: a removal removes nothing. -/
  | lostRace
  deriving DecidableEq

/-- A successful write. -/
structure Written where
  key : String
  marker : String
  /-- The time to live in seconds. -/
  ttl : Nat
  deriving DecidableEq

/-- A store for drills. -/
structure DrillStore where
  records : Memory := []
  mode : StoreMode := .healthy
  /-- Whether records run out as the clock moves. -/
  expiring : Bool := false
  /-- The successful writes, last first. -/
  written : List Written := []

namespace DrillStore

/-- The instant that the records see, in milliseconds. -/
def instant (s : DrillStore) (now : Nat) : Nat := if s.expiring then now * 1000 else 0

/-- The error of a store that cannot be reached. -/
def unreachable : StoreError := .unavailable "connection refused"

/-- Writes a record. -/
def put (now : Nat) (key marker : String) (ttl : Nat) (s : DrillStore) :
    Except StoreError Unit × DrillStore :=
  match s.mode with
  | .unavailable => (.error unreachable, s)
  | .putFails => (.error (.operation key "put refused"), s)
  | _ =>
    (.ok (), { s with
      records := s.records.put (s.instant now) key marker (ttl * 1000)
      written := ⟨key, marker, ttl⟩ :: s.written })

/-- Looks for a record. -/
def present (now : Nat) (key : String) (s : DrillStore) : Except StoreError Bool × DrillStore :=
  match s.mode with
  | .unavailable => (.error unreachable, s)
  | .presentFails => (.error (.operation key "exists refused"), s)
  | _ => (.ok (s.records.present (s.instant now) key), s)

/-- Removes a record. -/
def remove (key : String) (s : DrillStore) : Except StoreError Bool × DrillStore :=
  match s.mode with
  | .unavailable => (.error unreachable, s)
  | .removeFails => (.error (.operation key "delete refused"), s)
  | .lostRace => (.ok false, s)
  | _ =>
    let (removed, records) := s.records.remove key
    (.ok removed, { s with records })

/-- A store that works answers from its records. -/
theorem present_of_healthy (now : Nat) (key : String) (s : DrillStore) (h : s.mode = .healthy) :
    s.present now key = (.ok (s.records.present (s.instant now) key), s) := by
  simp [present, h]

end DrillStore

end IncidentRelay
