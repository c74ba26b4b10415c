import IncidentRelay.Proofs.Schedule.Run
import IncidentRelay.Proofs.Tables
import Mathlib.Data.List.TakeWhile

/-!
# Incidents do not interfere

Of a world only a part is about some of the incidents: their records, their armed checks, their
pages and what was written for them. The clock and what the store and the pager were told are common
to all. An operation on one of these incidents sees nothing but their part, and an operation on any
other incident leaves it alone. So a run goes the same way for them if the starts and the
acknowledgments of all others are taken out of it.

## Main statements

* `Drill.Shares.perform`: worlds that share a part go the same way through an operation about it.
* `Drill.part_perform_of_apart`: an operation about other incidents leaves the part alone.
* `Drill.Shares.advance`: the part stays shared as time passes.
* `Drill.incidents_apart`: a run and what is left of it without the other incidents.
-/

namespace IncidentRelay

/-! ### Sorting and filtering -/

section Sorting

variable {α : Type} {le : α → α → Bool}

/-- Where an element goes when a list is sorted: behind what is less, and in front of the rest. -/
theorem mergeSort_cons_split (trans : ∀ a b c, le a b = true → le b c = true → le a c = true)
    (total : ∀ a b, (le a b || le b a) = true) (a : α) (l : List α) :
    (a :: l).mergeSort le = (l.mergeSort le).takeWhile (fun b => !le a b) ++
      a :: (l.mergeSort le).dropWhile (fun b => !le a b) := by
  obtain ⟨front, back, hsort, hrest, hfront⟩ := List.mergeSort_cons trans total a l
  have hsorted := List.pairwise_mergeSort trans total (a :: l)
  rw [hsort] at hsorted
  have hback : ∀ b ∈ back, le a b = true :=
    (List.pairwise_cons.mp (List.pairwise_append.mp hsorted).2.1).1
  rw [hsort, hrest, List.takeWhile_append_of_pos hfront, List.dropWhile_append_of_pos hfront]
  cases back with
  | nil => simp
  | cons b rest => simp [hback b]

/-- In a sorted list the elements that are less than another one are in front. -/
theorem takeWhile_eq_filter_of_pairwise {p : α → Bool} {l : List α}
    (h : l.Pairwise fun a b => p b = true → p a = true) :
    l.takeWhile p = l.filter p ∧ l.dropWhile p = l.filter (fun a => !p a) := by
  induction l with
  | nil => exact ⟨rfl, rfl⟩
  | cons a rest ih =>
      obtain ⟨ha, hrest⟩ := List.pairwise_cons.mp h
      obtain ⟨htake, hdrop⟩ := ih hrest
      by_cases hp : p a = true
      · simp [hp, htake, hdrop]
      · have hnone : ∀ b ∈ rest, ¬ p b = true := fun b hb hpb => hp (ha b hb hpb)
        have hempty : rest.filter p = [] := List.filter_eq_nil_iff.mpr hnone
        have hall : rest.filter (fun a => !p a) = rest :=
          List.filter_eq_self.mpr fun b hb => by simpa using hnone b hb
        simp [hp, hempty, hall]

/-- Sorting keeps the order of what is equal, so a part of a list can be taken before or after. -/
theorem filter_mergeSort (trans : ∀ a b c, le a b = true → le b c = true → le a c = true)
    (total : ∀ a b, (le a b || le b a) = true) (p : α → Bool) (l : List α) :
    (l.mergeSort le).filter p = (l.filter p).mergeSort le := by
  induction l with
  | nil => simp
  | cons a l ih =>
      have hless : (l.mergeSort le).Pairwise fun b c =>
          (!le a c) = true → (!le a b) = true := by
        refine (List.pairwise_mergeSort trans total l).imp ?_
        intro b c hbc hc
        cases hab : le a b with
        | false => rfl
        | true => rw [trans a b c hab hbc] at hc; exact hc
      obtain ⟨htake, hdrop⟩ := takeWhile_eq_filter_of_pairwise hless
      obtain ⟨htake', hdrop'⟩ := takeWhile_eq_filter_of_pairwise (hless.filter p)
      rw [mergeSort_cons_split trans total a l, List.filter_append]
      by_cases ha : p a = true
      · rw [List.filter_cons_of_pos ha, List.filter_cons_of_pos ha,
          mergeSort_cons_split trans total, ← ih, htake, hdrop, htake', hdrop']
        simp only [List.filter_filter, Bool.and_comm]
      · rw [List.filter_cons_of_neg ha, List.filter_cons_of_neg ha, ← List.filter_append,
          List.takeWhile_append_dropWhile, ih]

end Sorting

/-! ### Armed checks in order -/

namespace Armed

variable {l : List Armed}

/-- Of checks in order, those that are due come first. -/
theorem Sorted.takeWhile_eq (h : Sorted l) (t : Nat) :
    l.takeWhile (·.due ≤ t) = l.filter (·.due ≤ t) ∧
      l.dropWhile (·.due ≤ t) = l.filter (fun a => !decide (a.due ≤ t)) :=
  takeWhile_eq_filter_of_pairwise (h.imp fun hab hb => by simp at hb ⊢; omega)

/-- The due ones of some of the checks are those of them that are due. -/
theorem Sorted.filter_takeWhile (h : Sorted l) (p : Armed → Bool) (t : Nat) :
    (l.takeWhile (·.due ≤ t)).filter p = (l.filter p).takeWhile (·.due ≤ t) ∧
      (l.dropWhile (·.due ≤ t)).filter p = (l.filter p).dropWhile (·.due ≤ t) := by
  obtain ⟨htake, hdrop⟩ := h.takeWhile_eq t
  obtain ⟨htake', hdrop'⟩ := Sorted.takeWhile_eq (List.Pairwise.filter p h) t
  rw [htake, hdrop, htake', hdrop']
  simp only [List.filter_filter, Bool.and_comm, and_self]

/-- Some of the checks have their own insertions. -/
theorem Sorted.filter_insertInto (h : Sorted l) {p : Armed → Bool} {a : Armed} (hp : p a = true) :
    (a.insertInto l).filter p = a.insertInto (l.filter p) := by
  obtain ⟨htake, hdrop⟩ := h.filter_takeWhile p a.due
  unfold Armed.insertInto
  rw [List.filter_append, List.filter_cons_of_pos hp, htake, hdrop]

end Armed

/-- A call about incidents of a kind, or about none. -/
def Call.About {κ : Type} (S : String → Bool) : Call κ → Prop
  | .put key _ _ | .present key | .remove key | .page key _ | .arm key _ _ => S key = true
  | .send .. | .count _ => True

/-- A call that changes nothing of the incidents of a kind. -/
def Call.Apart {κ : Type} (S : String → Bool) : Call κ → Prop
  | .put key _ _ | .remove key | .page key _ | .arm key _ _ => S key = false
  | .present _ | .send .. | .count _ => True

namespace Drill

variable {S : String → Bool} {v w : World Drill} {α : Type}

/-! ### The part of a world -/

/-- The part of a world that is about the incidents of a kind. What was counted is left out, since
it is counted for all incidents together. -/
def part (S : String → Bool) (w : World Drill) : World Drill :=
  { w with
    armed := w.armed.filter fun a => S a.incident
    counters := []
    outside := { w.outside with
      pages := w.outside.pages.filter fun page => S page.incident
      store := { w.outside.store with
        records := w.outside.store.records.filter fun e => S e.1
        written := w.outside.store.written.filter fun e => S e.key } } }

/-- Armed checks and records are in order. -/
structure Orderly (w : World Drill) : Prop where
  armed : Armed.Sorted w.armed
  records : w.outside.store.records.Ordered

/-- A part of an orderly world is orderly. -/
theorem Orderly.part (h : Orderly w) (S : String → Bool) : Orderly (part S w) :=
  ⟨List.Pairwise.filter _ h.armed, List.Pairwise.filter _ h.records⟩

/-- An orderly world stays orderly, whatever is called. -/
theorem Orderly.answer (h : Orderly w) (c : Call Empty) :
    Orderly (World.answer services c w).2 := by
  cases c with
  | put key marker ttl =>
      simp only [World.answer, services, DrillStore.put]
      split
      · exact h
      · exact h
      · exact ⟨h.armed, h.records.insert _ _⟩
  | present key =>
      simp only [World.answer, services, DrillStore.present]
      split <;> exact h
  | remove key =>
      simp only [World.answer, services, DrillStore.remove]
      split
      · exact h
      · exact h
      · exact h
      · exact ⟨h.armed, List.Pairwise.filter _ h.records⟩
  | page i settings =>
      simp only [World.answer, services]
      split <;> exact ⟨h.armed, h.records⟩
  | arm i settings after => exact ⟨h.armed.insertInto _, h.records⟩
  | count event => exact ⟨h.armed, h.records⟩
  | send channel i => exact channel.elim

/-- An orderly world stays orderly, whatever a process calls. -/
theorem Orderly.perform (h : Orderly w) (p : Process Empty α) :
    Orderly (w.perform services p).2 :=
  World.perform_keeps (P := fun _ => True) (fun c _ _ hv => hv.answer c)
    (p.every_of_forall fun _ => trivial) h

/-! ### What is about the part -/

/-- A call about the part sees nothing else and does the same to it alone. -/
theorem answer_part {c : Call Empty} (hc : c.About S) (h : Orderly w) :
    (World.answer services c w).1 = (World.answer services c (part S w)).1 ∧
      part S (World.answer services c w).2 = part S (World.answer services c (part S w)).2 := by
  cases c with
  | put key marker ttl =>
      have hc : S key = true := hc
      have hinsert (r : Memory.Record) := Table.filter_insert h.records hc r
      have hinsert' (r : Memory.Record) := Table.filter_insert (h.part S).records hc r
      simp only [part, List.filter_filter, Bool.and_self] at hinsert'
      simp only [World.answer, services, DrillStore.put, part]
      split <;> exact ⟨rfl, by simp [Memory.put_eq, DrillStore.instant, hinsert, hinsert', hc]⟩
  | present key =>
      have hc : S key = true := hc
      simp only [World.answer, services, DrillStore.present, part, Memory.present,
        DrillStore.instant, Table.get?_filter hc]
      split <;> exact ⟨rfl, by simp⟩
  | remove key =>
      have hc : S key = true := hc
      simp only [World.answer, services, DrillStore.remove, part, Memory.remove,
        Table.get?_filter hc]
      split <;> exact ⟨rfl, by simp [Table.filter_erase]⟩
  | page i settings =>
      have hc : S i = true := hc
      simp only [World.answer, services, part]
      split <;> exact ⟨rfl, by simp [hc]⟩
  | arm i settings after =>
      have hc : S i = true := hc
      have hinsert := h.armed.filter_insertInto (p := fun a => S a.incident)
        (a := ⟨w.now + after, i, settings⟩) hc
      have hinsert' := (h.part S).armed.filter_insertInto (p := fun a => S a.incident)
        (a := ⟨w.now + after, i, settings⟩) hc
      simp only [part, List.filter_filter, Bool.and_self] at hinsert'
      exact ⟨rfl, by simp [World.answer, part, hinsert, hinsert']⟩
  | count event => exact ⟨rfl, by simp [World.answer, part]⟩
  | send channel i => exact channel.elim

/-- Worlds in order that have the same part. -/
structure Shares (S : String → Bool) (v w : World Drill) : Prop where
  left : Orderly v
  right : Orderly w
  common : part S v = part S w

/-- Worlds that share a part go the same way through a call about it. -/
theorem Shares.answer (h : Shares S v w) {c : Call Empty} (hc : c.About S) :
    (World.answer services c v).1 = (World.answer services c w).1 ∧
      Shares S (World.answer services c v).2 (World.answer services c w).2 := by
  obtain ⟨hreply, hafter⟩ := answer_part hc h.left
  obtain ⟨hreply', hafter'⟩ := answer_part hc h.right
  refine ⟨?_, h.left.answer c, h.right.answer c, ?_⟩
  · rw [hreply, hreply', h.common]
  · rw [hafter, hafter', h.common]

/-- Worlds that share a part go the same way through an operation about it. -/
theorem Shares.perform (h : Shares S v w) {p : Process Empty α} (hp : p.Every (Call.About S)) :
    (v.perform services p).1 = (w.perform services p).1 ∧
      Shares S (v.perform services p).2 (w.perform services p).2 := by
  unfold World.perform
  induction p generalizing v w with
  | done a => exact ⟨rfl, h⟩
  | call c next ih =>
      obtain ⟨hreply, hafter⟩ := h.answer hp.1
      simp only [Process.run]
      rw [hreply]
      exact ih _ hafter (hp.2 _)

theorem Shares.symm (h : Shares S v w) : Shares S w v := ⟨h.right, h.left, h.common.symm⟩

/-- Two worlds that share a part with a third share it. -/
theorem Shares.trans {u : World Drill} (h : Shares S u v) (h' : Shares S v w) : Shares S u w :=
  ⟨h.left, h'.right, h.common.trans h'.common⟩

/-! ### What is about other incidents -/

/-- A call apart from some incidents leaves their part of the world. -/
theorem part_answer_of_apart {c : Call Empty} (hc : c.Apart S) (w : World Drill) :
    part S (World.answer services c w).2 = part S w := by
  cases c with
  | put key marker ttl =>
      have hc : S key = false := hc
      simp only [World.answer, services, DrillStore.put, part]
      split <;> simp [Memory.put_eq, Table.filter_insert_of_not hc, hc]
  | present key =>
      simp only [World.answer, services, DrillStore.present]
      split <;> rfl
  | remove key =>
      have hc : S key = false := hc
      simp only [World.answer, services, DrillStore.remove, part]
      split <;> simp [Memory.remove, Table.filter_erase_of_not hc]
  | page i settings =>
      have hc : S i = false := hc
      simp only [World.answer, services, part]
      split <;> simp [hc]
  | arm i settings after =>
      have hc : S i = false := hc
      simp only [World.answer, part]
      rw [Armed.filter_insertInto _ _ _ hc]
  | count event => simp [World.answer, part]
  | send channel i => exact channel.elim

/-- An operation about other incidents leaves the part alone. -/
theorem part_perform_of_apart {p : Process Empty α} (hp : p.Every (Call.Apart S))
    (w : World Drill) : part S (w.perform services p).2 = part S w :=
  World.perform_keeps (I := fun v => part S v = part S w)
    (fun _ v hc hv => (part_answer_of_apart hc v).trans hv) hp rfl

/-! ### The clock -/

/-- Worlds share a part at every instant. -/
theorem Shares.setNow (h : Shares S v w) (now : Nat) :
    Shares S { v with now } { w with now } :=
  ⟨⟨h.left.armed, h.left.records⟩, ⟨h.right.armed, h.right.records⟩,
    congrArg (fun u : World Drill => { u with now }) h.common⟩

/-- The checks of other incidents make no difference. Each check sets the clock for itself, so the
clock is left out of what is shared while they run. -/
theorem Shares.foldl {t : Nat} (h : Shares S { v with now := t } { w with now := t })
    (l : List Armed) :
    Shares S { l.foldl (World.runCheck services) v with now := t }
      { (l.filter fun a => S a.incident).foldl (World.runCheck services) w with now := t } := by
  induction l generalizing v w with
  | nil => exact h
  | cons a rest ih =>
      cases ha : S a.incident with
      | true =>
          have hcheck := (h.setNow a.due).perform (p := Escalation.check a.incident a.settings)
            (Escalation.check_every ha ha ha fun _ => trivial)
          simp only [List.filter_cons, ha, if_true]
          exact ih (hcheck.2.setNow t)
      | false =>
          have hpart := part_perform_of_apart (p := Escalation.check a.incident a.settings)
            (Escalation.check_every trivial ha ha fun _ => trivial) { v with now := a.due }
          have hleft : Orderly (World.runCheck services v a) :=
            Orderly.perform (w := { v with now := a.due }) ⟨h.left.armed, h.left.records⟩ _
          simp only [List.filter_cons, ha, Bool.false_eq_true, if_false]
          refine ih ⟨⟨hleft.armed, hleft.records⟩, h.right, ?_⟩
          exact (congrArg (fun u : World Drill => { u with now := t }) hpart).trans h.common

/-- Worlds go on sharing a part as time passes. -/
theorem Shares.advance (h : Shares S v w) (seconds : Nat) :
    Shares S (v.advance services seconds) (w.advance services seconds) := by
  have hnow : v.now = w.now := (congrArg World.now h.common :)
  have harmed : (v.armed.filter fun a => S a.incident) = w.armed.filter fun a => S a.incident :=
    (congrArg World.armed h.common :)
  let t := w.now + seconds
  obtain ⟨htake, hdrop⟩ := h.left.armed.filter_takeWhile (fun a => S a.incident) t
  obtain ⟨htake', hdrop'⟩ := h.right.armed.filter_takeWhile (fun a => S a.incident) t
  rw [harmed] at htake hdrop
  let rest (u : World Drill) : World Drill :=
    { u with now := w.now, armed := u.armed.dropWhile (·.due ≤ t) }
  have hrest : Shares S { rest v with now := t } { rest w with now := t } := by
    refine ⟨⟨h.left.armed.sublist (List.dropWhile_sublist _), h.left.records⟩,
      ⟨h.right.armed.sublist (List.dropWhile_sublist _), h.right.records⟩, ?_⟩
    have hcommon := congrArg (fun u : World Drill => { rest u with now := t }) h.common
    simp only [rest, part, harmed] at hcommon ⊢
    rw [hdrop, hdrop']
    exact hcommon
  have hleft := hrest.foldl (v.armed.takeWhile (·.due ≤ t))
  have hright := (hrest.symm.trans hrest).foldl (w.armed.takeWhile (·.due ≤ t))
  rw [htake] at hleft
  rw [htake'] at hright
  unfold World.advance
  rw [hnow]
  exact hleft.trans hright.symm

/-! ### Steps -/

/-- Whether a step is about an incident of a kind, or about none. -/
def Step.concerns (S : String → Bool) : Step → Bool
  | .start incident _ | .acknowledge incident => S incident
  | .advance _ | .setStore _ | .setPager _ => true

/-- What a report tells about the incidents of a kind. -/
def Report.within (S : String → Bool) (r : Report) : Report where
  outcome := r.outcome
  pages := r.pages.filter fun page => S page.incident
  written := r.written.filter fun e => S e.key
  pending := r.pending.filter S

/-- The order of pages is transitive. -/
theorem Page.le_trans (p q r : Page) (hpq : Page.le p q = true) (hqr : Page.le q r = true) :
    Page.le p r = true := by
  simp only [Page.le, Bool.or_eq_true, Bool.and_eq_true, decide_eq_true_eq, beq_iff_eq] at *
  rcases hpq with hpq | ⟨hpq, hle⟩ <;> rcases hqr with hqr | ⟨hqr, hle'⟩
  · exact .inl (Nat.lt_trans hpq hqr)
  · exact .inl (hqr ▸ hpq)
  · exact .inl (hpq ▸ hqr)
  · exact .inr ⟨hpq.trans hqr, String.le_trans hle hle'⟩

/-- Of two pages one comes no later. -/
theorem Page.le_total (p q : Page) : (Page.le p q || Page.le q p) = true := by
  simp only [Page.le, Bool.or_eq_true, Bool.and_eq_true, decide_eq_true_eq, beq_iff_eq]
  rcases Nat.lt_trichotomy p.at_ q.at_ with hlt | heq | hlt
  · exact .inl (.inl hlt)
  · exact (String.le_total p.incident q.incident).imp (fun h => .inr ⟨heq, h⟩)
      fun h => .inr ⟨heq.symm, h⟩
  · exact .inr (.inl hlt)

/-- A report tells about the incidents of a kind what their part of the world holds. -/
theorem report_within (S : String → Bool) (o : Outcome) (w : World Drill) :
    (report o w).within S = report o (part S w) := by
  have hpages : (w.outside.pages.reverse.mergeSort Page.le).filter (fun page => S page.incident) =
      (part S w).outside.pages.reverse.mergeSort Page.le := by
    rw [filter_mergeSort Page.le_trans Page.le_total, List.filter_reverse]
    rfl
  have hwritten : w.outside.store.written.reverse.filter (fun e => S e.key) =
      (part S w).outside.store.written.reverse := List.filter_reverse
  have hkeys (now : Nat) : (w.outside.store.records.keys now).filter S =
      (part S w).outside.store.records.keys now := by
    simp only [Memory.keys, List.filter_map, part, List.filter_filter]
    exact congrArg _ (List.filter_congr fun e _ => Bool.and_comm _ _)
  simp only [report, Report.within, hpages, hwritten, hkeys]
  rfl

/-- Worlds share a part when what was reported is put aside. -/
theorem Shares.fresh (h : Shares S v w) : Shares S (fresh v) (fresh w) := by
  refine ⟨⟨h.left.armed, h.left.records⟩, ⟨h.right.armed, h.right.records⟩, ?_⟩
  have hpart := congrArg Drill.fresh h.common
  simpa [Drill.fresh, Drill.part] using hpart

/-- A step that concerns the part does the same in worlds that share it. -/
theorem Shares.step (h : Shares S (Drill.fresh v) (Drill.fresh w)) {s : Step}
    (hs : s.concerns S = true) :
    (Drill.step v s).1.within S = (Drill.step w s).1.within S ∧
      Shares S (Drill.step v s).2 (Drill.step w s).2 := by
  have hperform : (Drill.perform (Drill.fresh v) s).1 = (Drill.perform (Drill.fresh w) s).1 ∧
      Shares S (Drill.perform (Drill.fresh v) s).2 (Drill.perform (Drill.fresh w) s).2 := by
    cases s with
    | start i settings =>
        obtain ⟨hresult, hafter⟩ := h.perform (p := Escalation.start i settings)
          (Escalation.start_every (fun _ _ => hs) hs (fun _ => hs) fun _ => trivial)
        exact ⟨congrArg Outcome.started hresult, hafter⟩
    | acknowledge i =>
        obtain ⟨hresult, hafter⟩ := h.perform (p := Escalation.acknowledge i)
          (Escalation.acknowledge_every hs hs fun _ => trivial)
        exact ⟨congrArg Outcome.acknowledged hresult, hafter⟩
    | advance seconds => exact ⟨rfl, h.advance seconds⟩
    | setStore mode =>
        refine ⟨rfl, ⟨h.left.armed, h.left.records⟩, ⟨h.right.armed, h.right.records⟩, ?_⟩
        exact congrArg (fun u : World Drill => { u with
          outside := { u.outside with store := { u.outside.store with mode } } }) h.common
    | setPager failure =>
        refine ⟨rfl, ⟨h.left.armed, h.left.records⟩, ⟨h.right.armed, h.right.records⟩, ?_⟩
        exact congrArg (fun u : World Drill => { u with
          outside := { u.outside with pagerFailure := failure } }) h.common
  obtain ⟨houtcome, hafter⟩ := hperform
  refine ⟨?_, hafter⟩
  simp only [step_eq, report_within]
  rw [houtcome, hafter.common]

/-- A step that does not concern the part leaves it alone. -/
theorem Shares.step_left (h : Shares S (Drill.fresh v) (Drill.fresh w)) {s : Step}
    (hs : s.concerns S = false) : Shares S (Drill.step v s).2 (Drill.fresh w) := by
  cases s with
  | start i settings =>
      have hpart := part_perform_of_apart (p := Escalation.start i settings)
        (Escalation.start_every (fun _ _ => hs) hs (fun _ => hs) fun _ => trivial) (Drill.fresh v)
      exact ⟨h.left.perform (Escalation.start i settings), h.right, hpart.trans h.common⟩
  | acknowledge i =>
      have hpart := part_perform_of_apart (p := Escalation.acknowledge i)
        (Escalation.acknowledge_every trivial hs fun _ => trivial) (Drill.fresh v)
      exact ⟨h.left.perform (Escalation.acknowledge i), h.right, hpart.trans h.common⟩
  | advance | setStore | setPager => exact absurd hs nofun

/-- A run goes the same way for the incidents of a kind without the steps of the others. -/
theorem Shares.trace (h : Shares S (Drill.fresh v) (Drill.fresh w)) (steps : List Step) :
    ((Drill.trace v steps).filter fun e => e.1.concerns S).map (fun e => (e.1, e.2.within S)) =
      (Drill.trace w (steps.filter (·.concerns S))).map fun e => (e.1, e.2.within S) := by
  induction steps generalizing v w with
  | nil => rfl
  | cons s rest ih =>
      simp only [trace_cons, List.filter_cons]
      cases hs : s.concerns S with
      | true =>
          obtain ⟨hreport, hafter⟩ := h.step hs
          simp only [if_true, trace_cons, List.map_cons, hreport, ih hafter.fresh]
      | false =>
          simp only [Bool.false_eq_true, if_false]
          exact ih (h.step_left hs).fresh

/-- Incidents do not interfere: what a run does for some of them it also does without the starts and
the acknowledgments of all others. -/
theorem incidents_apart (S : String → Bool) (expiring : Bool) (steps : List Step) :
    let w : World Drill := { outside := { store := { expiring } } }
    ((trace w steps).filter fun e => e.1.concerns S).map (fun e => (e.1, e.2.within S)) =
      (trace w (steps.filter (·.concerns S))).map fun e => (e.1, e.2.within S) := by
  intro w
  have hempty : Orderly w := ⟨List.Pairwise.nil, List.Pairwise.nil⟩
  have hsame : Shares S w w := ⟨hempty, hempty, rfl⟩
  exact Shares.trace hsame.fresh steps

end Drill

end IncidentRelay
