import IncidentRelay.Proofs.Interleaving.Pool

/-!
# Operations on other incidents

An operation touches nothing but its own incident: it leaves the records of others, their armed
checks and their pages as they are.

## Main statements

* `Pool.Frames.issue`, `Pool.Frames.call`: issuing an operation on another incident, and a call of
  one, change nothing about this incident.
-/

namespace IncidentRelay

variable {κ α : Type}

/-- An operation claims no record but that of its own incident. -/
theorem Operation.incident_of_claims? {op : Operation κ} {incident : String}
    (h : op.claims? = some incident) : op.incident = incident := by
  cases op <;> simp_all [claims?, Operation.incident]

/-- What an operation on another incident arms at once is none of this one's. -/
theorem Process.Every.armed_settle {op : Operation κ} {incident : String} {p : Process κ α}
    (h : p.Every op.Allows) (hop : op.incident ≠ incident) (w : World Memory) {a : Armed}
    (ha : a ∈ (p.settle w).2.armed) (hi : a.incident = incident) : a ∈ w.armed := by
  induction p generalizing w with
  | done _ => exact ha
  | call c next ih =>
      cases c with
      | count event => exact ih () (h.2 ()) { w with counters := w.counters.increment event } ha
      | arm i settings after =>
          rcases Armed.mem_insertInto.mp (ih () (h.2 ()) _ ha) with rfl | hw
          · exact absurd (h.1.symm.trans hi) hop
          · exact hw
      | put | present | remove | page | send => exact ha

/-- A call of an operation on another incident leaves this one's record alone. -/
theorem World.get?_answer_of_allows {op : Operation κ} {incident : String} {c : Call κ}
    (h : op.Allows c) (hop : op.incident ≠ incident) (f : Fortune) (w : World Memory) :
    (answer f.services c w).2.outside.get? incident = w.outside.get? incident := by
  cases c with
  | put key marker ttl =>
      obtain rfl : key = op.incident := h
      simp only [answer, Fortune.services]
      cases f.fault with
      | some e => rfl
      | none => simp [Memory.put_eq, Table.get?_insert, hop]
  | remove key =>
      obtain rfl : op.incident = key := Operation.incident_of_claims? h
      simp only [answer, Fortune.services]
      cases f.fault with
      | some e => rfl
      | none => simp [Memory.remove, Table.get?_erase, hop]
  | present key =>
      simp only [answer, Fortune.services]
      cases f.fault <;> rfl
  | page | send | arm | count => rfl

/-- A call of an operation on another incident arms no check of this one. -/
theorem World.armed_answer_of_allows {op : Operation κ} {incident : String} {c : Call κ}
    (h : op.Allows c) (hop : op.incident ≠ incident) (f : Fortune) (w : World Memory) {a : Armed}
    (ha : a ∈ (answer f.services c w).2.armed) (hi : a.incident = incident) : a ∈ w.armed := by
  cases c with
  | arm i settings after =>
      rcases Armed.mem_insertInto.mp ha with rfl | hw
      · exact absurd (h.symm.trans hi) hop
      · exact hw
  | put | present | remove | page | send | count => exact ha

/-- A call of an operation on another incident is no page for this one. -/
theorem Mark.paged_notMem_of_allows {op : Operation κ} {incident : String} {c : Call κ}
    (h : op.Allows c) (hop : op.incident ≠ incident) (n now : Nat) (r : c.Reply)
    (left : Process κ Answer) (k : Nat) :
    .paged incident k ∉ ofCall n op now c r ++ ofEnd n op left := by
  rw [List.mem_append]
  rintro (hm | hm)
  · unfold ofCall at hm
    split at hm
    · simp at hm
    · simp at hm
    · simp at hm
    · split at hm
      · simp only [List.mem_singleton, paged.injEq] at hm
        exact hop (h.symm.trans hm.1.symm)
      · simp at hm
    · simp at hm
  · unfold ofEnd at hm
    split at hm <;> simp at hm

namespace Pool

/-- Nothing about an incident has changed from one pool to the other. -/
structure Frames (incident : String) (p q : Pool κ) : Prop where
  record : q.world.outside.get? incident = p.world.outside.get? incident
  armed : ∀ a ∈ q.world.armed, a.incident = incident → a ∈ p.world.armed
  paged : ∀ n, .paged incident n ∈ q.log → .paged incident n ∈ p.log

namespace Frames

theorem refl (incident : String) (p : Pool κ) : Frames incident p p :=
  ⟨rfl, fun _ ha _ => ha, fun _ h => h⟩

/-- Issuing an operation on another incident changes nothing about this one. -/
theorem issue {op : Operation κ} {incident : String} (hop : op.incident ≠ incident) (p : Pool κ) :
    Frames incident p (p.issue op) where
  record := by simp [Pool.issue]
  armed _ ha hi := op.process_every.armed_settle hop p.world ha hi
  paged _ h := h

/-- A call of an operation on another incident changes nothing about this one. -/
theorem call {p : Pool κ} (hp : p.Lawful) {n : Nat} {t : Task κ} (hn : p.tasks[n]? = some t)
    {incident : String} (hop : t.operation.incident ≠ incident) (f : Fortune) :
    Frames incident p (p.call n f) := by
  by_cases hcall : ∃ op c next, p.tasks[n]? = some ⟨op, some (.call c next)⟩
  · obtain ⟨op, c, next, hc⟩ := hcall
    obtain rfl : t = ⟨op, some (.call c next)⟩ := Option.some.inj (hn.symm.trans hc)
    obtain ⟨hallow, hnext⟩ := hp n _ hc _ rfl
    rw [call_of_next hc]
    constructor
    · simpa using World.get?_answer_of_allows hallow hop f p.world
    · intro a ha hi
      exact World.armed_answer_of_allows hallow hop f p.world
        ((hnext _).armed_settle hop _ ha hi) hi
    · intro k hk
      rcases List.mem_append.mp hk with hk | hk
      · exact hk
      · exact absurd hk (Mark.paged_notMem_of_allows hallow hop n _ _ _ k)
  · rw [call_of_over fun op c next hc => hcall ⟨op, c, next, hc⟩]
    exact refl incident p

end Frames

/-- A call changes at most what its operation has left to do. -/
theorem tasks_call {p : Pool κ} {n : Nat} {t : Task κ} (hn : p.tasks[n]? = some t) (f : Fortune) :
    ∃ left, (p.call n f).tasks = p.tasks.set n { t with left } := by
  by_cases hcall : ∃ op c next, p.tasks[n]? = some ⟨op, some (.call c next)⟩
  · obtain ⟨op, c, next, hc⟩ := hcall
    obtain rfl : t = ⟨op, some (.call c next)⟩ := Option.some.inj (hn.symm.trans hc)
    rw [call_of_next hc]
    exact ⟨_, rfl⟩
  · rw [call_of_over fun op c next hc => hcall ⟨op, c, next, hc⟩]
    obtain ⟨hlt, rfl⟩ := List.getElem?_eq_some_iff.mp hn
    exact ⟨p.tasks[n].left, (List.set_getElem_self hlt).symm⟩

@[simp] theorem now_call (p : Pool κ) (n : Nat) (f : Fortune) :
    (p.call n f).world.now = p.world.now := by
  unfold Pool.call
  split
  · simp
  · rfl

@[simp] theorem now_issue (p : Pool κ) (op : Operation κ) :
    (p.issue op).world.now = p.world.now := by
  simp [Pool.issue]

/-- The clock never goes back. -/
theorem now_le_move (p : Pool κ) (m : Move κ) : p.world.now ≤ (p.move m).world.now := by
  cases m with
  | issue op => simp [Pool.move]
  | call n f => simp [Pool.move]
  | abandon n =>
      unfold Pool.move Pool.abandon
      dsimp only
      split <;> exact Nat.le_refl _
  | wake k =>
      unfold Pool.move Pool.wake
      dsimp only
      split
      · split <;> simp
      · exact Nat.le_refl _
  | wait seconds => exact Nat.le_add_right _ _
  | drop key => exact Nat.le_refl _

/-- The clock of a run never goes back. -/
theorem now_le_run (p : Pool κ) (moves : List (Move κ)) :
    p.world.now ≤ (p.run moves).world.now := by
  induction moves generalizing p with
  | nil => exact Nat.le_refl _
  | cons m rest ih => exact Nat.le_trans (now_le_move p m) (ih _)

/-- Nothing is taken out of the log. -/
theorem log_prefix_move (p : Pool κ) (m : Move κ) : p.log <+: (p.move m).log := by
  cases m with
  | issue | wait | drop => exact List.prefix_rfl
  | call n f =>
      unfold Pool.move Pool.call
      dsimp only
      split
      · exact List.prefix_append _ _
      · exact List.prefix_rfl
  | abandon n =>
      unfold Pool.move Pool.abandon
      dsimp only
      split <;> exact List.prefix_rfl
  | wake k =>
      unfold Pool.move Pool.wake
      dsimp only
      split
      · split <;> exact List.prefix_rfl
      · exact List.prefix_rfl

end Pool

end IncidentRelay
