import IncidentRelay.Redis.Store

/-!
# A Redis server for drills

A server that keeps its records for ever and answers some commands as it was told. A command whose
reply was told has no effect. What was sent is kept.
-/

namespace IncidentRelay

/-- A server for drills. -/
structure DrillRedis where
  records : Table String := []
  /-- The reply lines to commands, by their first word. -/
  replies : Table String := []
  /-- Whether nothing listens at all. -/
  refusing : Bool := false
  /-- The commands sent, last first. -/
  sent : List Redis.Command := []

namespace DrillRedis

/-- What the server does by itself. -/
def usual (d : DrillRedis) : Redis.Command → Redis.Reply × DrillRedis
  | .authenticate _ | .select _ => (Redis.granted, d)
  | .ping => (.status "PONG", d)
  | .put key marker _ => (Redis.granted, { d with records := Table.insert d.records key marker })
  | .present key => (.integer (if (Table.get? d.records key).isSome then 1 else 0), d)
  | .remove key =>
    (.integer (if (Table.get? d.records key).isSome then 1 else 0),
      { d with records := Table.erase d.records key })

/-- Answers a command. -/
def exchange (c : Redis.Command) (d : DrillRedis) : Option Redis.Reply × DrillRedis :=
  let d := { d with sent := c :: d.sent }
  match Table.get? d.replies (c.words.headD "") with
  | some line => (Redis.Reply.ofLine? line, d)
  | none =>
    let (r, d) := d.usual c
    (some r, d)

/-- The way to the server. -/
def link : Redis.Link DrillRedis where
  connect d := (!d.refusing, d)
  exchange := exchange

/-- A step of a drill. -/
inductive Step
  /-- Writes a record with its time to live in milliseconds. -/
  | put (key marker : String) (ttl : Nat)
  | present (key : String)
  | remove (key : String)
  | ping
  /-- Tells the server what to reply. -/
  | tell (replies : Table String)
  | nothing

/-- What came of a step. -/
inductive Outcome
  | done (r : Except StoreError Unit)
  | found (r : Except StoreError Bool)
  | nothing

/-- Does one step. -/
def perform (settings : Settings.Redis) (s : Redis.Connected DrillRedis) :
    Step → Outcome × Redis.Connected DrillRedis
  | .put key marker ttl =>
    let (r, s) := Redis.Store.write ⟨link, settings⟩ key marker (ttl * Redis.nanosPerMilli) s
    (.done r, s)
  | .present key =>
    let (r, s) := Redis.Store.present ⟨link, settings⟩ key s
    (.found r, s)
  | .remove key =>
    let (r, s) := Redis.Store.remove ⟨link, settings⟩ key s
    (.found r, s)
  | .ping =>
    let (r, s) := Redis.Store.ping ⟨link, settings⟩ s
    (.done r, s)
  | .tell replies => (.nothing, { s with outside := { s.outside with replies } })
  | .nothing => (.nothing, s)

/-- Does steps one after the other, to what came of each and what was sent during it. -/
def run (settings : Settings.Redis) (s : Redis.Connected DrillRedis) :
    List Step → List (Outcome × List Redis.Command)
  | [] => []
  | step :: rest =>
    let (o, s) := perform settings { s with outside := { s.outside with sent := [] } } step
    (o, s.outside.sent.reverse) :: run settings s rest

/-- What came of connecting, what was sent for it, and if it went well what came of the steps. -/
def session (settings : Settings.Redis) (probe : Bool) (d : DrillRedis) (steps : List Step) :
    Except StoreError Unit × List Redis.Command × List (Outcome × List Redis.Command) :=
  match Redis.Store.open_ ⟨link, settings⟩ probe d with
  | (.error e, s) => (.error e, s.outside.sent.reverse, [])
  | (.ok (), s) => (.ok (), s.outside.sent.reverse, run settings s steps)

end DrillRedis

end IncidentRelay
