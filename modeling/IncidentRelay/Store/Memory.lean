import IncidentRelay.Table

/-!
# The store in memory

Records in the process itself, in a cache that lets its entries run out. Whenever an entry is put
into the cache, the cache asks for how long it may live from then on, by one question for a new
entry and by another for one that takes the place of an old one. The store answers both with the
time to live that the entry was written with, so each write renews a record.

A record that has run out is no longer seen, but it stays in its place until it is written again or
removed, and its removal still counts as one.

Instants and times to live are in one unit, which the store does not need to know.

## Main statements

* `Memory.put_eq`: whether a record is new or not, it runs out when its time to live has passed.
* `Memory.present_put`: a record is seen until its time to live has passed, and writing it has no
  influence on other keys.
* `Memory.present_remove`: a removed record is not seen.
-/

namespace IncidentRelay

/-- A record of the store. -/
structure Memory.Record where
  marker : String
  /-- The first instant at which the record is no longer seen, if it runs out at all. -/
  deadline : Option Nat
  deriving DecidableEq

/-- The records of a store by key. -/
abbrev Memory := Table Memory.Record

namespace Memory

/-- What is put into the cache. -/
structure Entry where
  marker : String
  ttl : Nat

/-- For how long the cache lets an entry live from an instant on. Without an answer the entry never
runs out. -/
structure Expiry where
  /-- Asked for an entry under a key that had none. -/
  afterCreate (key : String) (e : Entry) (now : Nat) : Option Nat
  /-- Asked for an entry in the place of another one, which had so much time left. -/
  afterUpdate (key : String) (e : Entry) (now : Nat) (left : Option Nat) : Option Nat

/-- Each entry lives for the time that it was written with. -/
def perEntry : Expiry where
  afterCreate _ e _ := some e.ttl
  afterUpdate _ e _ _ := some e.ttl

/-- Whether an instant is before a deadline. -/
def isBefore (now : Nat) (deadline : Option Nat) : Bool := deadline.all (now < ·)

/-- For how long an entry that is put into the cache lives. -/
def lifeOf (expiry : Expiry) (m : Memory) (now : Nat) (key : String) (e : Entry) : Option Nat :=
  match m.get? key with
  | none => expiry.afterCreate key e now
  | some r => expiry.afterUpdate key e now (r.deadline.map (· - now))

/-- Puts an entry into the cache. -/
def insertBy (expiry : Expiry) (m : Memory) (now : Nat) (key : String) (e : Entry) : Memory :=
  m.insert key ⟨e.marker, (lifeOf expiry m now key e).map (now + ·)⟩

/-- Writes a record that runs out after `ttl`. -/
def put (m : Memory) (now : Nat) (key marker : String) (ttl : Nat) : Memory :=
  insertBy perEntry m now key ⟨marker, ttl⟩

/-- Whether a record is seen under the key. -/
def present (m : Memory) (now : Nat) (key : String) : Bool :=
  match m.get? key with
  | some r => isBefore now r.deadline
  | none => false

/-- Removes a record, and tells whether there was one. -/
def remove (m : Memory) (key : String) : Bool × Memory := ((m.get? key).isSome, m.erase key)

/-- The keys that are seen, in order. -/
def keys (m : Memory) (now : Nat) : List String :=
  (m.filter fun e => isBefore now e.2.deadline).map (·.1)

@[simp] theorem isBefore_some (now deadline : Nat) :
    isBefore now (some deadline) = decide (now < deadline) := rfl

/-- A record runs out when its time to live has passed, whether there was one under its key before
or not. -/
theorem put_eq (m : Memory) (now : Nat) (key marker : String) (ttl : Nat) :
    m.put now key marker ttl = m.insert key ⟨marker, some (now + ttl)⟩ := by
  simp only [put, insertBy, lifeOf, perEntry]
  cases m.get? key <;> rfl

/-- A record is seen until its time to live has passed. -/
theorem present_put (m : Memory) (now later : Nat) (key other marker : String) (ttl : Nat) :
    (m.put now key marker ttl).present later other =
      if key = other then decide (later < now + ttl) else m.present later other := by
  rw [put_eq]
  simp only [present, Table.get?_insert]
  by_cases h : key = other <;> simp [h]

/-- A removed record is not seen. -/
theorem present_remove (m : Memory) (now : Nat) (key other : String) :
    (m.remove key).2.present now other = if key = other then false else m.present now other := by
  simp only [present, remove, Table.get?_erase]
  by_cases h : key = other <;> simp [h]

end Memory

end IncidentRelay
