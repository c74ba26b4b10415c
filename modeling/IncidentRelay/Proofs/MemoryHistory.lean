import IncidentRelay.Proofs.StoreRefinement

/-!
# What a store in memory remembers

Requests to a store in memory, one after the other, at instants that never go back. The records lie
in a cache that also tidies up by itself: now and then it looks at a key and drops the record there
if that has run out, or if there are more records than it is made for. When it does so is not known,
so every history has to be allowed for.

A record is seen exactly until its time to live has passed since its last write. A removal also
counts one that is no longer seen, as long as the cache has not dropped it.

## Main statements

* `Memory.Recalls.happen`: the records are those that the history has left, from event to event.
* `Memory.history_part`: what happens to other keys has no influence on the answers about a key.
* `Memory.answers_of_history`: what a store answers, read off its history.
-/

namespace IncidentRelay

namespace Memory

/-! ### Histories -/

/-- How many records that have not run out the cache holds. -/
def capacity : Nat := 100000

/-- The cache looks at a key, and drops its record if that has run out or there are too many. -/
def tidy (m : Memory) (now : Nat) (key : String) : Memory :=
  if m.present now key = true ∧ (m.keys now).length ≤ capacity then m else m.erase key

/-- What happens to a store in memory. -/
inductive Event
  | asked (r : StoreRequest)
  /-- The cache looks at a key by itself. -/
  | tidied (key : String)
  deriving DecidableEq

/-- The answer to an event, if it is a request, and the records after it. -/
def happen (m : Memory) (now : Nat) : Event → Option StoreAnswer × Memory
  | .asked r => (some (m.answer now r).1, (m.answer now r).2)
  | .tidied key => (none, m.tidy now key)

/-- An event with its answer. -/
structure Happening where
  now : Nat
  event : Event
  answer : Option StoreAnswer

/-- What happens to a store, one after the other. -/
def history (m : Memory) : List (Nat × Event) → List Happening
  | [] => []
  | (now, e) :: rest => ⟨now, e, (m.happen now e).1⟩ :: (m.happen now e).2.history rest

/-- Whether there are never more live records than the cache is made for. -/
def HasRoom (m : Memory) : List (Nat × Event) → Prop
  | [] => True
  | (now, e) :: rest => (m.keys now).length ≤ capacity ∧ (m.happen now e).2.HasRoom rest

instance decidableHasRoom (m : Memory) :
    (events : List (Nat × Event)) → Decidable (m.HasRoom events)
  | [] => .isTrue trivial
  | (now, e) :: rest =>
    have := decidableHasRoom (m.happen now e).2 rest
    inferInstanceAs (Decidable ((m.keys now).length ≤ capacity ∧ (m.happen now e).2.HasRoom rest))

/-- The key that an event is about. -/
def Event.key? : Event → Option String
  | .asked (.put key _ _) | .asked (.present key) | .asked (.remove key) | .tidied key => some key
  | .asked .ping => none

/-! ### What a history says about a key -/

/-- A record of the key was written. -/
def Happening.Writes (x : Happening) (key : String) : Prop :=
  ∃ marker ttl, x.event = .asked (.put key marker ttl)

/-- A removal of the key was answered with success. -/
def Happening.Takes (x : Happening) (key : String) : Prop :=
  x.event = .asked (.remove key) ∧ x.answer = some (.found (.ok true))

/-- The last write of a key was at `start` with `ttl`, and no removal has succeeded among what has
happened since. -/
def Standing (h : List Happening) (key : String) (start ttl : Nat) (since : List Happening) :
    Prop :=
  (∃ before marker a, h = before ++ ⟨start, .asked (.put key marker ttl), a⟩ :: since) ∧
    ∀ x ∈ since, ¬ x.Writes key ∧ ¬ x.Takes key

/-- The cache has not looked at a key any more after an instant. -/
def Untidied (since : List Happening) (key : String) (deadline : Nat) : Prop :=
  ∀ x ∈ since, x.event = .tidied key → x.now < deadline

/-- A key has a record that runs out at an instant: it was written with such a time to live, has not
been removed since, and the cache has not looked at it any more once it had run out. -/
def Held (h : List Happening) (key : String) (deadline : Option Nat) : Prop :=
  ∃ start ttl since, Standing h key start ttl since ∧ Untidied since key (start + ttl) ∧
    some (start + ttl) = deadline

variable {m : Memory} {h : List Happening} {x : Happening} {key : String} {now : Nat}

/-- The write that stands is part of the history. -/
theorem Standing.mem {start ttl : Nat} {since : List Happening}
    (hs : Standing h key start ttl since) (hx : x ∈ since) : x ∈ h := by
  obtain ⟨⟨before, marker, a, rfl⟩, -⟩ := hs
  exact List.mem_append_right before (List.mem_cons_of_mem _ hx)

/-- After one more event the last write is that event, or it was one before and the event leaves its
record alone. -/
theorem standing_concat {start ttl : Nat} {since : List Happening} :
    Standing (h ++ [x]) key start ttl since ↔
      (since = [] ∧ x.now = start ∧ ∃ marker, x.event = .asked (.put key marker ttl)) ∨
        ∃ rest, since = rest ++ [x] ∧ Standing h key start ttl rest ∧
          ¬ x.Writes key ∧ ¬ x.Takes key := by
  constructor
  · rintro ⟨⟨before, marker, a, heq⟩, hsince⟩
    rcases List.eq_nil_or_concat since with rfl | ⟨rest, last, rfl⟩
    · obtain ⟨-, hx⟩ := List.append_inj' heq rfl
      obtain rfl := List.singleton_inj.mp hx
      exact .inl ⟨rfl, rfl, marker, rfl⟩
    · rw [List.concat_eq_append] at heq hsince ⊢
      rw [← List.cons_append, ← List.append_assoc] at heq
      obtain ⟨rfl, hx⟩ := List.append_inj' heq rfl
      obtain rfl := List.singleton_inj.mp hx
      obtain ⟨hrest, hlast⟩ := List.forall_mem_append.mp hsince
      exact .inr ⟨rest, rfl, ⟨⟨before, marker, a, rfl⟩, hrest⟩, hlast _ List.mem_cons_self⟩
  · rintro (⟨rfl, rfl, marker, hx⟩ | ⟨rest, rfl, ⟨⟨before, marker, a, rfl⟩, hrest⟩, hx⟩)
    · obtain ⟨now, event, answer⟩ := x
      obtain rfl := hx
      exact ⟨⟨h, marker, answer, rfl⟩, fun _ hmem => absurd hmem List.not_mem_nil⟩
    · refine ⟨⟨before, marker, a, by simp⟩, List.forall_mem_append.mpr ⟨hrest, ?_⟩⟩
      exact fun y hy => List.mem_singleton.mp hy ▸ hx

/-- The cache has looked at a key in time if it had before, and does so in what happens last. -/
theorem untidied_concat {since : List Happening} {deadline : Nat} :
    Untidied (since ++ [x]) key deadline ↔
      Untidied since key deadline ∧ (x.event = .tidied key → x.now < deadline) := by
  simp only [Untidied, List.forall_mem_append, List.forall_mem_singleton]

/-- What is held after one more happening: what it wrote, or what was held and is still. -/
theorem held_concat {deadline : Option Nat} :
    Held (h ++ [x]) key deadline ↔
      (∃ marker ttl, x.event = .asked (.put key marker ttl) ∧ some (x.now + ttl) = deadline) ∨
        Held h key deadline ∧ ¬ x.Writes key ∧ ¬ x.Takes key ∧
          (x.event = .tidied key → isBefore x.now deadline = true) := by
  constructor
  · rintro ⟨start, ttl, since, hs, hu, rfl⟩
    rcases standing_concat.mp hs with ⟨-, rfl, marker, hx⟩ | ⟨rest, rfl, hrest, hwrites, htakes⟩
    · exact .inl ⟨marker, ttl, hx, rfl⟩
    · obtain ⟨hu, hx⟩ := untidied_concat.mp hu
      exact .inr ⟨⟨start, ttl, rest, hrest, hu, rfl⟩, hwrites, htakes, by simpa using hx⟩
  · rintro (⟨marker, ttl, hx, hd⟩ | ⟨⟨start, ttl, rest, hrest, hu, rfl⟩, hwrites, htakes, hx⟩)
    · exact ⟨x.now, ttl, [], standing_concat.mpr (.inl ⟨rfl, rfl, marker, hx⟩), nofun, hd⟩
    · exact ⟨start, ttl, rest ++ [x],
        standing_concat.mpr (.inr ⟨rest, rfl, hrest, hwrites, htakes⟩),
        untidied_concat.mpr ⟨hu, by simpa using hx⟩, rfl⟩

/-! ### The records that a history leaves -/

/-- The record of a key, as the instant at which it runs out. -/
def deadline? (m : Memory) (key : String) : Option (Option Nat) := (m.get? key).map (·.deadline)

/-- A record is seen if it is held and its time has not run out. -/
theorem present_iff :
    m.present now key = true ↔ ∃ d, m.deadline? key = some d ∧ isBefore now d = true := by
  simp only [present, deadline?]
  cases m.get? key <;> simp

/-- A record is removed if it is held, run out or not. -/
theorem removed_iff : (m.remove key).1 = true ↔ ∃ d, m.deadline? key = some d := by
  simp only [remove, deadline?]
  cases m.get? key <;> simp

/-- A write sets its own deadline and no other. -/
theorem deadline?_put (m : Memory) (now : Nat) (key marker : String) (ttl : Nat) (other : String) :
    (m.put now key marker ttl).deadline? other =
      if key = other then some (some (now + ttl)) else m.deadline? other := by
  rw [put_eq, deadline?, deadline?, Table.get?_insert]
  by_cases hkey : key = other <;> simp [hkey]

/-- A removal takes its own deadline and no other. -/
theorem deadline?_erase (m : Memory) (key other : String) :
    deadline? (m.erase key) other = if key = other then none else m.deadline? other := by
  rw [deadline?, deadline?, Table.get?_erase]
  by_cases hkey : key = other <;> simp [hkey]

/-- The records are those that the history has left. -/
def Recalls (m : Memory) (h : List Happening) : Prop :=
  ∀ key deadline, m.deadline? key = some deadline ↔ Held h key deadline

/-- An empty store recalls an empty history. -/
theorem recalls_nil : Recalls [] [] := by
  intro key deadline
  constructor
  · exact nofun
  · rintro ⟨start, ttl, since, ⟨⟨before, marker, a, heq⟩, -⟩, -⟩
    exact absurd heq (by simp)

/-- The cache drops nothing but what has run out, as long as there is room. -/
theorem deadline?_tidy (hroom : (m.keys now).length ≤ capacity) (other : String) :
    (m.tidy now key).deadline? other =
      if key = other ∧ m.present now key = false then none else m.deadline? other := by
  unfold tidy
  cases hpresent : m.present now key with
  | true => simp [hroom]
  | false => simp [deadline?_erase]

/-- A store recalls a write. -/
theorem Recalls.put (hr : Recalls m h) (now : Nat) (k marker : String) (ttl : Nat)
    (a : Option StoreAnswer) :
    Recalls (m.put now k marker ttl) (h ++ [⟨now, .asked (.put k marker ttl), a⟩]) := by
  intro key deadline
  rw [held_concat, ← hr key deadline, deadline?_put]
  by_cases hk : k = key
  · constructor
    · intro hd
      rw [if_pos hk] at hd
      exact .inl ⟨marker, ttl, by rw [hk], Option.some.inj hd⟩
    · rintro (⟨_, _, heq, hd⟩ | ⟨-, hwrites, -⟩)
      · cases heq
        rw [if_pos rfl, hd]
      · exact absurd ⟨marker, ttl, by rw [hk]⟩ hwrites
  · simp [hk, Happening.Writes, Happening.Takes]

/-- A store recalls a removal. -/
theorem Recalls.remove (hr : Recalls m h) (now : Nat) (k : String) :
    Recalls (m.erase k) (h ++ [⟨now, .asked (.remove k), some (.found (.ok (m.remove k).1))⟩]) := by
  intro key deadline
  rw [held_concat, ← hr key deadline, deadline?_erase]
  by_cases hk : k = key
  · subst hk
    -- What is there is removed with success, so nothing is left that was written before.
    have htakes (hd : m.deadline? k = some deadline) : (m.remove k).1 = true :=
      removed_iff.mpr ⟨deadline, hd⟩
    simp only [Happening.Takes, Happening.Writes]
    simpa using htakes
  · simp [hk, Happening.Writes, Happening.Takes]

/-- A store recalls that it was tidied, as long as it has room. -/
theorem Recalls.tidy (hr : Recalls m h) (hroom : (m.keys now).length ≤ capacity) (k : String)
    (a : Option StoreAnswer) : Recalls (m.tidy now k) (h ++ [⟨now, .tidied k, a⟩]) := by
  intro key deadline
  rw [held_concat, ← hr key deadline, deadline?_tidy hroom]
  by_cases hk : k = key
  · subst hk
    have hlive (hd : m.deadline? k = some deadline) :
        m.present now k = true ↔ isBefore now deadline = true := by
      simp [present_iff, hd]
    simp only [Happening.Writes, Happening.Takes]
    cases hpresent : m.present now k with
    | false => simpa [hpresent] using hlive
    | true => simpa [hpresent] using hlive
  · simp [hk, Happening.Writes, Happening.Takes]

/-- A question leaves the records as they are, and says nothing about what was written. -/
theorem Recalls.question (hr : Recalls m h) {r : StoreRequest}
    (hquestion : r = .ping ∨ ∃ k, r = .present k) (now : Nat) (a : Option StoreAnswer) :
    Recalls m (h ++ [⟨now, .asked r, a⟩]) := by
  intro key deadline
  rw [held_concat, ← hr key deadline]
  rcases hquestion with rfl | ⟨k, rfl⟩ <;> simp [Happening.Writes, Happening.Takes]

/-- The records are those that the history has left, after one more event too. -/
theorem Recalls.happen (hr : Recalls m h) (hroom : (m.keys now).length ≤ capacity) (e : Event) :
    Recalls (m.happen now e).2 (h ++ [⟨now, e, (m.happen now e).1⟩]) := by
  cases e with
  | asked r =>
      cases r with
      | put k marker ttl => exact hr.put now k marker ttl _
      | remove k => exact hr.remove now k
      | present k => exact hr.question (.inr ⟨k, rfl⟩) now _
      | ping => exact hr.question (.inl rfl) now _
  | tidied k => exact hr.tidy hroom k _

/-- On the way through a history the records are always those that the history has left so far. -/
theorem Recalls.history {events : List (Nat × Event)} (hr : Recalls m h)
    (hroom : m.HasRoom events) {before later : List Happening}
    (heq : m.history events = before ++ x :: later) :
    ∃ m' : Memory, Recalls m' (h ++ before) ∧ x.answer = (m'.happen x.now x.event).1 := by
  induction events generalizing m h before with
  | nil => exact absurd heq (by simp [Memory.history])
  | cons first rest ih =>
      obtain ⟨now, e⟩ := first
      obtain ⟨hfirst, hrest⟩ := hroom
      cases before with
      | nil =>
          obtain ⟨rfl, -⟩ := List.cons.inj heq
          exact ⟨m, by rwa [List.append_nil], rfl⟩
      | cons y before =>
          obtain ⟨rfl, hlater⟩ := List.cons.inj heq
          obtain ⟨m', hr', hx⟩ := ih (hr.happen hfirst e) hrest hlater
          exact ⟨m', by simpa using hr', hx⟩

/-- The instants of a history are those of its events. -/
theorem history_now (m : Memory) (events : List (Nat × Event)) :
    (m.history events).map (·.now) = events.map (·.1) := by
  induction events generalizing m with
  | nil => rfl
  | cons first rest ih => simp [Memory.history, ih]

/-- A record is seen until its time to live has passed since it was written. -/
theorem Recalls.present_iff (hr : Recalls m h) (hnow : ∀ y ∈ h, y.now ≤ now) (key : String) :
    m.present now key = true ↔
      ∃ start ttl since, Standing h key start ttl since ∧ now < start + ttl := by
  rw [Memory.present_iff]
  constructor
  · rintro ⟨d, hd, hlt⟩
    obtain ⟨start, ttl, since, hs, -, rfl⟩ := (hr key d).mp hd
    exact ⟨start, ttl, since, hs, by simpa using hlt⟩
  · rintro ⟨start, ttl, since, hs, hlt⟩
    have huntidied : Untidied since key (start + ttl) := by
      intro y hy _
      exact Nat.lt_of_le_of_lt (hnow y (hs.mem hy)) hlt
    exact ⟨some (start + ttl), (hr key _).mpr ⟨start, ttl, since, hs, huntidied, rfl⟩,
      by simpa using hlt⟩

/-- A record is removed as long as the cache has not dropped it. -/
theorem Recalls.removed_iff (hr : Recalls m h) (key : String) :
    (m.remove key).1 = true ↔
      ∃ start ttl since, Standing h key start ttl since ∧ Untidied since key (start + ttl) := by
  rw [Memory.removed_iff]
  constructor
  · rintro ⟨d, hd⟩
    obtain ⟨start, ttl, since, hs, hu, rfl⟩ := (hr key d).mp hd
    exact ⟨start, ttl, since, hs, hu⟩
  · rintro ⟨start, ttl, since, hs, hu⟩
    exact ⟨some (start + ttl), (hr key _).mpr ⟨start, ttl, since, hs, hu, rfl⟩⟩

/-! ### Other keys -/

/-- Whether an event is about one of some keys. -/
def Event.within (p : String → Bool) (e : Event) : Bool := e.key?.any p

/-- A record is seen in the part of the store that it belongs to as it is in the whole. -/
theorem present_part {p : String → Bool} (hp : p key = true) (m : Memory) (now : Nat) :
    present (m.filter fun e => p e.1) now key = m.present now key := by
  simp only [present, Table.get?_filter hp]

/-- There are not more live records in a part. -/
theorem keys_part_length_le (m : Memory) (p : String → Bool) (now : Nat) :
    (keys (m.filter fun e => p e.1) now).length ≤ (m.keys now).length := by
  simp only [keys, List.length_map]
  exact (List.filter_sublist.filter _).length_le

/-- An event about some keys sees only their records and changes no others. -/
theorem happen_part {p : String → Bool} (ho : Table.Ordered m)
    (hroom : (m.keys now).length ≤ capacity) {e : Event} (he : e.within p = true) :
    (m.happen now e).1 = (happen (m.filter fun e => p e.1) now e).1 ∧
      (m.happen now e).2.filter (fun e => p e.1) =
        (happen (m.filter fun e => p e.1) now e).2 := by
  cases e with
  | asked r =>
      cases r with
      | put k marker ttl =>
          refine ⟨rfl, ?_⟩
          simp only [Memory.happen, answer, put_eq]
          exact Table.filter_insert ho he _
      | present k => exact ⟨by simp [Memory.happen, answer, present_part he], rfl⟩
      | remove k =>
          have hget := Table.get?_filter (p := p) he m
          exact ⟨by simp [Memory.happen, answer, remove, hget], Table.filter_erase m p k⟩
      | ping => exact absurd he (by simp [Event.within, Event.key?])
  | tidied k =>
      have hroom' := Nat.le_trans (keys_part_length_le m p now) hroom
      refine ⟨rfl, ?_⟩
      simp only [Memory.happen, tidy, present_part he, hroom, hroom', and_true]
      split
      · rfl
      · exact Table.filter_erase m p k

/-- An event about no key of a part leaves the part alone. -/
theorem part_happen_of_not_within {p : String → Bool} {e : Event} (he : e.within p = false)
    (m : Memory) (now : Nat) :
    (m.happen now e).2.filter (fun e => p e.1) = m.filter fun e => p e.1 := by
  cases e with
  | asked r =>
      cases r with
      | put k marker ttl => exact Table.filter_insert_of_not he m _
      | remove k => exact Table.filter_erase_of_not he m
      | present | ping => rfl
  | tidied k =>
      simp only [Memory.happen, tidy]
      split
      · rfl
      · exact Table.filter_erase_of_not he m

/-- Whatever happens, the records stay in order. -/
theorem ordered_happen (ho : Table.Ordered m) (now : Nat) (e : Event) :
    Table.Ordered (m.happen now e).2 := by
  cases e with
  | asked r =>
      cases r with
      | put k marker ttl => exact ho.insert k _
      | remove k => exact List.Pairwise.filter _ ho
      | present | ping => exact ho
  | tidied k =>
      simp only [Memory.happen, tidy]
      split
      · exact ho
      · exact List.Pairwise.filter _ ho

/-- What happens to other keys has no influence on the answers about some keys. -/
theorem history_part {events : List (Nat × Event)} (p : String → Bool) (ho : Table.Ordered m)
    (hroom : m.HasRoom events) :
    (m.history events).filter (·.event.within p) =
      history (m.filter fun e => p e.1) (events.filter (·.2.within p)) := by
  induction events generalizing m with
  | nil => rfl
  | cons first rest ih =>
      obtain ⟨now, e⟩ := first
      obtain ⟨hfirst, hrest⟩ := hroom
      have hothers := ih (ordered_happen ho now e) hrest
      cases he : e.within p with
      | true =>
          obtain ⟨hanswer, hafter⟩ := happen_part ho hfirst he
          rw [hafter] at hothers
          simp [Memory.history, he, hothers, hanswer]
      | false =>
          rw [part_happen_of_not_within he] at hothers
          simp [Memory.history, he, hothers]

/-! ### What the answers mean -/

/-- Where two elements of a list are that are each picked out of it: it is the same one, or one is
behind the other. -/
theorem split_cases {α : Type} {a b c d : List α} {x y : α} (h : a ++ x :: b = c ++ y :: d) :
    (a = c ∧ x = y ∧ b = d) ∨ y ∈ b ∨ x ∈ d := by
  rcases List.append_eq_append_iff.mp h with ⟨mid, hc, hx⟩ | ⟨mid, ha, hy⟩
  · cases mid with
    | nil =>
        obtain ⟨rfl, rfl⟩ := List.cons.inj hx
        exact .inl ⟨by simpa using hc.symm, rfl, rfl⟩
    | cons z mid =>
        obtain ⟨rfl, rfl⟩ := List.cons.inj hx
        exact .inr (.inl (by simp))
  · cases mid with
    | nil =>
        obtain ⟨rfl, rfl⟩ := List.cons.inj hy
        exact .inl ⟨by simpa using ha, rfl, rfl⟩
    | cons z mid =>
        obtain ⟨rfl, rfl⟩ := List.cons.inj hy
        exact .inr (.inr (by simp))

/-- The last write of a key is the one after which there is no other. -/
theorem Standing.of_write {before between : List Happening} {a : Option StoreAnswer}
    {marker : String} {start ttl start' ttl' : Nat} {since : List Happening}
    (hs : Standing (before ++ ⟨start, .asked (.put key marker ttl), a⟩ :: between) key start' ttl'
      since) (hbetween : ∀ y ∈ between, ¬ y.Writes key) :
    start' = start ∧ ttl' = ttl ∧ since = between := by
  obtain ⟨⟨before', marker', a', heq⟩, hsince⟩ := hs
  rcases split_cases heq with ⟨-, hput, rfl⟩ | hmem | hmem
  · cases hput
    exact ⟨rfl, rfl, rfl⟩
  · exact absurd ⟨marker', ttl', rfl⟩ (hbetween _ hmem)
  · exact absurd ⟨marker, ttl, rfl⟩ (hsince _ hmem).1

/-- After a removal that has succeeded, a record has to be written before there is one again. -/
theorem Standing.exists_write {before between : List Happening} {start ttl : Nat}
    {since : List Happening} (hs : Standing (before ++ x :: between) key start ttl since)
    (hx : x.Takes key) : ∃ y ∈ between, y.Writes key := by
  obtain ⟨⟨before', marker, a, heq⟩, hsince⟩ := hs
  rcases split_cases heq with ⟨-, rfl, -⟩ | hmem | hmem
  · exact absurd hx.1 (by simp)
  · exact ⟨_, hmem, marker, ttl, rfl⟩
  · exact absurd hx (hsince x hmem).2

/-- What happened before happened no later. -/
theorem now_le_of_split (htimes : (h.map (·.now)).Pairwise (· ≤ ·)) {before later : List Happening}
    (heq : h = before ++ x :: later) : ∀ y ∈ before, y.now ≤ x.now := by
  subst heq
  intro y hy
  rw [List.map_append, List.map_cons] at htimes
  exact (List.pairwise_append.mp htimes).2.2 _ (List.mem_map_of_mem hy) _ List.mem_cons_self

/-- A record is seen if it was written, no removal has succeeded since the last write, and the time
to live of that write has not passed. -/
def SeenAsWritten (h : List Happening) : Prop :=
  ∀ before now key a later, h = before ++ ⟨now, .asked (.present key), a⟩ :: later →
    ∃ found, a = some (.found (.ok found)) ∧
      (found = true ↔
        ∃ start ttl since, Standing before key start ttl since ∧ now < start + ttl)

/-- A removal also succeeds when the time to live has passed, as long as the cache has not looked at
the key since then. -/
def RemovedAsHeld (h : List Happening) : Prop :=
  ∀ before now key a later, h = before ++ ⟨now, .asked (.remove key), a⟩ :: later →
    ∃ removed, a = some (.found (.ok removed)) ∧
      (removed = true ↔ ∃ start ttl since, Standing before key start ttl since ∧
        (now < start + ttl ∨ Untidied since key (start + ttl)))

/-- A write is good for one removal at most. -/
def TakenOnce (h : List Happening) : Prop :=
  ∀ before x between y later key, h = before ++ x :: between ++ y :: later →
    x.Takes key → y.Takes key → ∃ z ∈ between, z.Writes key

/-- From a write on its own time to live counts, whatever was there before. -/
def Renewed (h : List Happening) : Prop :=
  ∀ before start key marker ttl w between now a later,
    h = before ++ ⟨start, .asked (.put key marker ttl), w⟩ :: between ++
        ⟨now, .asked (.present key), a⟩ :: later →
      (∀ x ∈ between, ¬ x.Writes key) →
        (a = some (.found (.ok true)) ↔ (∀ x ∈ between, ¬ x.Takes key) ∧ now < start + ttl)

/-- A record without a time to live is never seen. -/
def UnseenWithoutTime (h : List Happening) : Prop :=
  ∀ before start key marker w between now a later,
    h = before ++ ⟨start, .asked (.put key marker 0), w⟩ :: between ++
        ⟨now, .asked (.present key), a⟩ :: later →
      (∀ x ∈ between, ¬ x.Writes key) → a = some (.found (.ok false))

section Answers

variable {events : List (Nat × Event)}

/-- In every history a record is seen as it was last written. -/
theorem seenAsWritten (htimes : (events.map (·.1)).Pairwise (· ≤ ·)) (hroom : HasRoom [] events) :
    SeenAsWritten (history [] events) := by
  intro before now key a later heq
  obtain ⟨m, hr, ha⟩ := recalls_nil.history hroom heq
  have hnow := now_le_of_split (by rwa [history_now]) heq
  exact ⟨m.present now key, ha, hr.present_iff hnow key⟩

/-- In every history a record is removed if it stands and was not tidied away. -/
theorem removedAsHeld (htimes : (events.map (·.1)).Pairwise (· ≤ ·)) (hroom : HasRoom [] events) :
    RemovedAsHeld (history [] events) := by
  intro before now key a later heq
  obtain ⟨m, hr, ha⟩ := recalls_nil.history hroom heq
  have hnow := now_le_of_split (by rwa [history_now]) heq
  refine ⟨(m.remove key).1, ha, (hr.removed_iff key).trans ?_⟩
  constructor
  · rintro ⟨start, ttl, since, hs, hu⟩
    exact ⟨start, ttl, since, hs, .inr hu⟩
  · rintro ⟨start, ttl, since, hs, hlt | hu⟩
    · refine ⟨start, ttl, since, hs, fun y hy _ => ?_⟩
      exact Nat.lt_of_le_of_lt (hnow y (hs.mem hy)) hlt
    · exact ⟨start, ttl, since, hs, hu⟩

end Answers

/-- Where a record is removed only as it stands, each write is good for one removal at most. -/
theorem RemovedAsHeld.takenOnce (hr : RemovedAsHeld h) : TakenOnce h := by
  intro before x between y later key heq hx hy
  obtain ⟨now, event, answer⟩ := y
  obtain ⟨rfl, rfl⟩ := hy
  obtain ⟨removed, hanswer, hiff⟩ := hr (before ++ x :: between) now key _ later heq
  obtain ⟨start, ttl, since, hs, -⟩ := hiff.mp (by simpa using hanswer.symm)
  exact hs.exists_write hx

/-- Where records are seen as they were written, a time to live counts from the last write on. -/
theorem SeenAsWritten.renewed (hs : SeenAsWritten h) : Renewed h := by
  intro before start key marker ttl w between now a later heq hlast
  obtain ⟨found, rfl, hiff⟩ := hs _ now key a later heq
  have hfound : some (StoreAnswer.found (.ok found)) = some (.found (.ok true)) ↔ found = true := by
    simp
  rw [hfound, hiff]
  constructor
  · rintro ⟨start', ttl', since, hstanding, hlt⟩
    obtain ⟨rfl, rfl, rfl⟩ := hstanding.of_write hlast
    exact ⟨fun x hx => (hstanding.2 x hx).2, hlt⟩
  · rintro ⟨hkept, hlt⟩
    exact ⟨start, ttl, between, ⟨⟨before, marker, w, rfl⟩,
      fun x hx => ⟨hlast x hx, hkept x hx⟩⟩, hlt⟩

/-- Where records are seen as they were written, one without time to live is never seen. -/
theorem SeenAsWritten.unseenWithoutTime (hs : SeenAsWritten h)
    (htimes : (h.map (·.now)).Pairwise (· ≤ ·)) : UnseenWithoutTime h := by
  intro before start key marker w between now a later heq hlast
  have hstart : start ≤ now :=
    now_le_of_split htimes heq ⟨start, .asked (.put key marker 0), w⟩ (by simp)
  obtain ⟨found, rfl, -⟩ := hs _ now key a later heq
  have hiff := hs.renewed before start key marker 0 w between now _ later heq hlast
  cases found with
  | false => rfl
  | true =>
      obtain ⟨-, hlt⟩ := hiff.mp rfl
      omega

/-- What a store in memory answers can be read off its history, and what happens to other keys has
no influence on it: the answers about some keys are those of a store to which nothing else has
happened. -/
theorem answers_of_history (events : List (Nat × Event))
    (htimes : (events.map (·.1)).Pairwise (· ≤ ·)) (hroom : HasRoom [] events) :
    let h := history [] events
    SeenAsWritten h ∧ RemovedAsHeld h ∧ TakenOnce h ∧ Renewed h ∧ UnseenWithoutTime h ∧
      ∀ p : String → Bool,
        h.filter (·.event.within p) = history [] (events.filter (·.2.within p)) := by
  have hseen := seenAsWritten htimes hroom
  have hremoved := removedAsHeld htimes hroom
  refine ⟨hseen, hremoved, hremoved.takenOnce, hseen.renewed, ?_, ?_⟩
  · exact hseen.unseenWithoutTime (by rwa [history_now])
  · exact fun p => history_part p List.Pairwise.nil hroom

/-- A record is renewed when it has run out, is dropped by the cache once it has run out again, and
another one that is no longer seen is removed with success. -/
theorem answers_of_history_renewed :
    let events : List (Nat × Event) :=
      [(0, .asked (.put "x" "pending" 5)), (5, .asked (.present "x")),
        (6, .asked (.put "x" "pending" 5)), (10, .asked (.present "x")), (10, .tidied "x"),
        (10, .asked (.put "y" "pending" 1)), (11, .tidied "x"), (12, .asked (.remove "x")),
        (12, .asked (.present "y")), (12, .asked (.remove "y")), (13, .asked (.remove "y"))]
    let h := history [] events
    (SeenAsWritten h ∧ RemovedAsHeld h) ∧
      h.filterMap (·.answer) = [.done (.ok ()), .found (.ok false), .done (.ok ()),
        .found (.ok true), .done (.ok ()), .found (.ok false), .found (.ok false),
        .found (.ok true), .found (.ok false)] := by
  intro events h
  obtain ⟨hseen, hremoved, -⟩ := answers_of_history events (by decide) (by decide)
  exact ⟨⟨hseen, hremoved⟩, by rfl⟩

/-- A record that is not seen any more can still be removed. -/
theorem unseen_removed :
    (history [] [(0, .asked (.put "x" "pending" 0)), (0, .asked (.present "x")),
        (0, .asked (.remove "x"))]).filterMap (·.answer) =
      [.done (.ok ()), .found (.ok false), .found (.ok true)] := by
  rfl

end Memory

end IncidentRelay
