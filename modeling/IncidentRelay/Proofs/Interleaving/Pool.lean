import IncidentRelay.Proofs.Calls
import IncidentRelay.Store.Memory

/-!
# Pools of operations

Any number of operations over one store, each somewhere between two of its calls. A move lets one
of them make its next call, issues another, abandons one, or lets time pass. A call is atomic, and
nothing else is: between two calls of an operation anything can happen. Counting and arming need no
one outside, so they belong to the call before them.

Which instance of the service an operation runs on makes no difference here. Instances share
nothing but the store.

## Main statements

* `Process.settle_outside`, `Process.settle_now`: what follows a call at once leaves the store and
  the clock alone.
* `Pool.call_of_next`: what a call of an operation does to the pool.
* `Pool.Lawful.move`: after every move the operations make no calls but those that they can.
-/

namespace IncidentRelay

variable {κ α : Type}

/-- An operation of the service, as it is issued. -/
inductive Operation (κ : Type)
  | start (incident : String) (settings : Settings.OnCall)
  | acknowledge (incident : String)
  | check (incident : String) (settings : Settings.OnCall)
  | create (relay : Relay κ) (incident team : String) (content : Content) (params : Params)

/-- What comes of an operation. -/
inductive Answer
  | started (r : Except OnCallError Started)
  | acknowledged (r : Except OnCallError Unit)
  | checked
  | created (r : Except IncidentError Incident)

/-- The calls of an operation. -/
def Operation.process : Operation κ → Process κ Answer
  | .start incident settings =>
    (Escalation.start incident settings).bind fun r => .done (.started r)
  | .acknowledge incident => (Escalation.acknowledge incident).bind fun r => .done (.acknowledged r)
  | .check incident settings => (Escalation.check incident settings).bind fun _ => .done .checked
  | .create relay incident team content params =>
    (relay.createIncident incident team content params).bind fun r => .done (.created r)

/-- The incident whose record an operation means to remove, if it means to remove one. -/
def Operation.claims? : Operation κ → Option String
  | .acknowledge incident | .check incident _ => some incident
  | .start .. | .create .. => none

/-- The incident that an operation is about. -/
def Operation.incident : Operation κ → String
  | .start incident _ | .acknowledge incident | .check incident _ | .create _ incident .. =>
    incident

/-- The calls that an operation can make: it writes, pages and arms for its own incident only, and
removes no record but the one it competes for. -/
def Operation.Allows (op : Operation κ) : Call κ → Prop
  | .put key _ _ | .page key _ | .arm key _ _ => key = op.incident
  | .remove key => op.claims? = some key
  | .present _ | .send .. | .count _ => True

/-- Does what needs no one outside, up to the next call that does. -/
def Process.settle : Process κ α → World Memory → Process κ α × World Memory
  | .call (.count event) next, w =>
    (next ()).settle { w with counters := w.counters.increment event }
  | .call (.arm incident settings after) next, w =>
    (next ()).settle
      { w with armed := Armed.insertInto ⟨w.now + after, incident, settings⟩ w.armed }
  | p, w => (p, w)

/-- What those outside make of a call: a store call that fails has no effect. -/
structure Fortune where
  fault : Option StoreError := none
  pager : Except PagingError Unit := .ok ()
  channel : Except ChannelError Unit := .ok ()

/-- The services behind one call. -/
def Fortune.services (f : Fortune) : Services κ Memory where
  put now key marker ttl m :=
    match f.fault with
    | some e => (.error e, m)
    | none => (.ok (), m.put (now * 1000) key marker (ttl * 1000))
  present now key m :=
    match f.fault with
    | some e => (.error e, m)
    | none => (.ok (m.present (now * 1000) key), m)
  remove _ key m :=
    match f.fault with
    | some e => (.error e, m)
    | none => (.ok (m.remove key).1, (m.remove key).2)
  page _ _ _ m := (f.pager, m)
  send _ _ _ m := (f.channel, m)

/-- What a run leaves behind. Operations are known by their place in the order of issue. -/
inductive Mark
  /-- A channel took an incident, with the link that it carries. -/
  | delivered (incident : String) (link : Option String)
  /-- A record was written at an instant. -/
  | stored (incident : String) (at_ : Nat)
  /-- An operation removed a record. -/
  | claimed (incident : String) (operation : Nat)
  /-- An acknowledgment came back with success. -/
  | acknowledged (incident : String) (operation : Nat)
  /-- A check called the pager. -/
  | paged (incident : String) (operation : Nat)
  deriving DecidableEq

/-- The marks of an answered call. Only the pages of checks are marked. -/
def Mark.ofCall (n : Nat) (op : Operation κ) (now : Nat) : (c : Call κ) → c.Reply → List Mark
  | .put key _ _, .ok () => [.stored key now]
  | .remove key, .ok true => [.claimed key n]
  | .send _ i, .ok () => [.delivered i.id i.ackUrl?]
  | .page incident _, _ => if op.claims?.isSome then [.paged incident n] else []
  | _, _ => []

/-- The mark of an operation that is over. -/
def Mark.ofEnd (n : Nat) : Operation κ → Process κ Answer → List Mark
  | .acknowledge incident, .done (.acknowledged (.ok ())) => [.acknowledged incident n]
  | _, _ => []

/-- An operation on its way. -/
structure Task (κ : Type) where
  operation : Operation κ
  /-- What it still has to do; nothing once it is abandoned. -/
  left : Option (Process κ Answer)

/-- Operations over one store. -/
structure Pool (κ : Type) where
  world : World Memory := { outside := [] }
  /-- The operations in the order of issue. -/
  tasks : List (Task κ) := []
  log : List Mark := []

/-- A move of a run. -/
inductive Move (κ : Type)
  | issue (op : Operation κ)
  /-- An operation makes its next call. -/
  | call (n : Nat) (f : Fortune)
  | abandon (n : Nat)
  /-- An armed check that is due begins. -/
  | wake (k : Nat)
  | wait (seconds : Nat)
  /-- The store drops a record. -/
  | drop (key : String)

namespace Pool

/-- Issues an operation. -/
def issue (p : Pool κ) (op : Operation κ) : Pool κ :=
  let (left, world) := op.process.settle p.world
  { p with world, tasks := p.tasks ++ [⟨op, some left⟩] }

/-- An operation makes its next call, if there is one. -/
def call (p : Pool κ) (n : Nat) (f : Fortune) : Pool κ :=
  match p.tasks[n]? with
  | some ⟨op, some (.call c next)⟩ =>
    let (r, world) := World.answer f.services c p.world
    let (left, world) := (next r).settle world
    { world, tasks := p.tasks.set n ⟨op, some left⟩
      log := p.log ++ (Mark.ofCall n op p.world.now c r ++ Mark.ofEnd n op left) }
  | _ => p

/-- An operation is abandoned where it is. -/
def abandon (p : Pool κ) (n : Nat) : Pool κ :=
  match p.tasks[n]? with
  | some t => { p with tasks := p.tasks.set n { t with left := none } }
  | none => p

/-- An armed check that is due begins. -/
def wake (p : Pool κ) (k : Nat) : Pool κ :=
  match p.world.armed[k]? with
  | some a =>
    if a.due ≤ p.world.now then
      issue { p with world := { p.world with armed := p.world.armed.eraseIdx k } }
        (.check a.incident a.settings)
    else p
  | none => p

/-- Does a move. -/
def move (p : Pool κ) : Move κ → Pool κ
  | .issue op => p.issue op
  | .call n f => p.call n f
  | .abandon n => p.abandon n
  | .wake k => p.wake k
  | .wait seconds => { p with world := { p.world with now := p.world.now + seconds } }
  | .drop key => { p with world := { p.world with outside := p.world.outside.erase key } }

/-- Does moves one after the other. -/
def run (p : Pool κ) (moves : List (Move κ)) : Pool κ := moves.foldl move p

end Pool

/-! ### Basic reductions -/

/-- What follows a call at once leaves the store alone. -/
@[simp] theorem Process.settle_outside (p : Process κ α) (w : World Memory) :
    (p.settle w).2.outside = w.outside := by
  induction p generalizing w with
  | done a => rfl
  | call c next ih =>
      cases c with
      | count event => exact ih () _
      | arm incident settings after => exact ih () _
      | _ => rfl

/-- What follows a call at once takes no time. -/
@[simp] theorem Process.settle_now (p : Process κ α) (w : World Memory) :
    (p.settle w).2.now = w.now := by
  induction p generalizing w with
  | done a => rfl
  | call c next ih =>
      cases c with
      | count event => exact ih () _
      | arm incident settings after => exact ih () _
      | _ => rfl

/-- What is counted at once is not left to be counted. -/
theorem Process.settle_ne_count (p : Process κ α) (w : World Memory) (event : Event)
    (next : Unit → Process κ α) : (p.settle w).1 ≠ .call (.count event) next := by
  induction p generalizing w with
  | done a => nofun
  | call c rest ih =>
      cases c with
      | count event => exact ih () _
      | arm incident settings after => exact ih () _
      | _ => nofun

/-! ### The calls of the operations -/

/-- What follows a call at once makes no other calls. -/
theorem Process.Every.settle {P : Call κ → Prop} {p : Process κ α} (h : p.Every P)
    (w : World Memory) : (p.settle w).1.Every P := by
  induction p generalizing w with
  | done a => trivial
  | call c next ih =>
      cases c with
      | count event => exact ih () (h.2 ()) _
      | arm incident settings after => exact ih () (h.2 ()) _
      | _ => exact h

/-- An operation makes no calls but those that it can. -/
theorem Operation.process_every (op : Operation κ) : op.process.Every op.Allows := by
  cases op with
  | start incident settings =>
      refine Process.Every.bind ?_ fun _ => trivial
      exact Escalation.start_every (fun _ _ => rfl) rfl (fun _ => rfl) fun _ => trivial
  | acknowledge incident =>
      refine Process.Every.bind ?_ fun _ => trivial
      exact Escalation.acknowledge_every trivial rfl fun _ => trivial
  | check incident settings =>
      refine Process.Every.bind ?_ fun _ => trivial
      exact Escalation.check_every trivial rfl rfl fun _ => trivial
  | create relay incident team content params =>
      refine Process.Every.bind ?_ fun _ => trivial
      exact Relay.createIncident_every (fun _ => trivial) (fun _ _ => rfl) rfl (fun _ => rfl)
        fun _ => trivial

/-! ### Properties of all operations -/

/-- A property of all operations of a list, each with its place. -/
def EachTask (P : Nat → Task κ → Prop) (tasks : List (Task κ)) : Prop :=
  ∀ n t, tasks[n]? = some t → P n t

namespace EachTask

variable {P Q : Nat → Task κ → Prop} {tasks : List (Task κ)}

theorem nil : EachTask P [] := by
  intro n t ht
  simp at ht

/-- An operation that is issued joins the others. -/
theorem append (h : EachTask P tasks) {t : Task κ} (ht : P tasks.length t) :
    EachTask P (tasks ++ [t]) := by
  intro n u hu
  rcases Nat.lt_trichotomy n tasks.length with hn | rfl | hn
  · exact h n u (by simpa [List.getElem?_append_left hn] using hu)
  · obtain rfl : t = u := by simpa using hu
    exact ht
  · have : (tasks ++ [t])[n]? = none := List.getElem?_eq_none (by simp; omega)
    simp [this] at hu

/-- An operation that goes on takes the place that it had. -/
theorem set (h : EachTask P tasks) {n : Nat} {t : Task κ}
    (hne : ∀ m u, m ≠ n → P m u → Q m u) (ht : Q n t) : EachTask Q (tasks.set n t) := by
  intro m u hu
  by_cases hm : n = m
  · subst hm
    by_cases hlt : n < tasks.length
    · obtain rfl : t = u := by simpa [hlt] using hu
      exact ht
    · simp [List.getElem?_eq_none (show (tasks.set n t).length ≤ n by simpa using hlt)] at hu
  · exact hne m u (Ne.symm hm) (h m u (by simpa [List.getElem?_set_ne hm] using hu))

end EachTask

/-- An operation on its way makes no calls but those that it can. -/
def Task.Lawful (t : Task κ) : Prop := ∀ p, t.left = some p → p.Every t.operation.Allows

namespace Pool

/-- All operations make no calls but those that they can. -/
def Lawful (p : Pool κ) : Prop := EachTask (fun _ t => t.Lawful) p.tasks

@[simp] theorem run_cons (p : Pool κ) (m : Move κ) (rest : List (Move κ)) :
    p.run (m :: rest) = (p.move m).run rest := rfl

/-- What a call of an operation does to the pool. -/
theorem call_of_next {p : Pool κ} {n : Nat} {op : Operation κ} {c : Call κ}
    {next : c.Reply → Process κ Answer} (h : p.tasks[n]? = some ⟨op, some (.call c next)⟩)
    (f : Fortune) :
    p.call n f =
      let a := World.answer f.services c p.world
      let l := (next a.1).settle a.2
      { world := l.2, tasks := p.tasks.set n ⟨op, some l.1⟩
        log := p.log ++ (Mark.ofCall n op p.world.now c a.1 ++ Mark.ofEnd n op l.1) } := by
  simp only [call, h]

/-- A call changes nothing if the operation has none to make. -/
theorem call_of_over {p : Pool κ} {n : Nat}
    (h : ∀ op c next, p.tasks[n]? ≠ some ⟨op, some (.call c next)⟩) (f : Fortune) :
    p.call n f = p := by
  unfold call
  split
  · next op c next hn => exact absurd hn (h op c next)
  · rfl

/-- An operation that is issued makes no calls but those that it can. -/
theorem Lawful.issue {p : Pool κ} (h : p.Lawful) (op : Operation κ) : (p.issue op).Lawful := by
  refine EachTask.append h ?_
  intro q hq
  obtain rfl := Option.some.inj hq
  exact op.process_every.settle _

/-- A call leaves an operation no calls but those that it can make. -/
theorem Lawful.call {p : Pool κ} (h : p.Lawful) (n : Nat) (f : Fortune) : (p.call n f).Lawful := by
  unfold Pool.call
  split
  · next op c next hn =>
      refine EachTask.set h (fun _ _ _ hu => hu) ?_
      intro q hq
      obtain rfl := Option.some.inj hq
      exact ((h n _ hn _ rfl).2 _).settle _
  · exact h

/-- A move leaves all operations no calls but those that they can make. -/
theorem Lawful.move {p : Pool κ} (h : p.Lawful) (m : Move κ) : (p.move m).Lawful := by
  cases m with
  | issue op => exact h.issue op
  | call n f => exact h.call n f
  | abandon n =>
      unfold Pool.move Pool.abandon
      dsimp only
      split
      · exact EachTask.set h (fun _ _ _ hu => hu) nofun
      · exact h
  | wake k =>
      unfold Pool.move Pool.wake
      dsimp only
      split
      · next a _ =>
          split
          · exact Lawful.issue (p := { p with world := _ }) h _
          · exact h
      · exact h
  | wait | drop => exact h

end Pool

end IncidentRelay
