import IncidentRelay.Proofs.Inert
import IncidentRelay.Proofs.Schedule.Pager

/-!
# What failures leave behind

A start or an acknowledgment that fails changes nothing but the count of what was not found, so a
run goes on as if it had not been there. A check that fails changes nothing at all and is not tried
again. And a page that fails is a page that was made.

## Main statements

* `Drill.step_of_failed`: a failed step leaves the world as it was.
* `Drill.Pruned.trace_eq`: without its failed steps a run goes the same way.
* `Drill.runCheck_of_failed`: a failed check leaves the world as it was.
* `Drill.advance_of_failed`: what follows is as if the check had never been armed.
* `Drill.failures_are_void`: all of this, for every run and whatever the pagers answer.
-/

namespace IncidentRelay

/-- The same but for what was not found. -/
def Counters.SameButNotFound (c d : Counters) : Prop :=
  ∀ event, event ≠ .notFound → d.value event = c.value event

/-- What was not found may be counted differently after any event. -/
theorem Counters.SameButNotFound.stable : Stable SameButNotFound := by
  intro c d event h e he
  rw [value_increment, value_increment, h e he]

namespace Drill

variable {v w : World Drill}

/-! ### Failed calls -/

/-- A write that fails changes nothing. -/
theorem answer_put_of_error {key marker : String} {ttl : Nat} {e : StoreError} {w₁ : World Drill}
    (h : World.answer services (.put key marker ttl) w = (.error e, w₁)) : w₁ = w := by
  simp only [World.answer, services, DrillStore.put] at h
  split at h
  · exact (congrArg Prod.snd h).symm
  · exact (congrArg Prod.snd h).symm
  · cases congrArg Prod.fst h

/-- A start that meets a failing store changes nothing. -/
theorem start_of_failed {incident : String} {settings : Settings.OnCall} {e : StoreError}
    (h : (w.perform services (Escalation.start incident settings)).1 = .error (.store e)) :
    (w.perform services (Escalation.start incident settings)).2 = w := by
  unfold Escalation.start at h ⊢
  dsimp only at h ⊢
  split at h
  · next hwait =>
      rw [World.perform, Process.run_bind] at h
      cases hpage : (Process.run (World.answer services)
          (Escalation.page .immediate incident settings) w).1 <;>
        simp [hpage, Process.run] at h
  · next hwait =>
      split at h
      · cases h
      · next hfits =>
          rw [if_neg hwait, if_neg hfits]
          rcases hput : World.answer services
            (.put incident pendingMarker (settings.wait + recordGrace)) w with ⟨r, w₁⟩
          rw [World.perform_call hput] at h ⊢
          cases r with
          | ok u => cases h
          | error e => exact answer_put_of_error hput

/-- An acknowledgment that fails changes at most the count of what was not found. -/
theorem acknowledge_of_failed {incident : String} {e : OnCallError}
    (h : (w.perform services (Escalation.acknowledge incident)).1 = .error e) :
    ∃ c, Counters.SameButNotFound w.counters c ∧
      (w.perform services (Escalation.acknowledge incident)).2 = { w with counters := c } := by
  have hcount : Counters.SameButNotFound w.counters (w.counters.increment .notFound) := by
    intro event hevent
    rw [Counters.value_increment, if_neg hevent.symm, Nat.add_zero]
  obtain ⟨_, rfl, hsame | hcounted⟩ := World.acknowledge_of_error services_inert h
  · exact ⟨w.counters, fun _ _ => rfl, hsame⟩
  · exact ⟨_, hcount, hcounted⟩

/-- The store keeps a check from removing the record: it fails, or another is faster, or there is
none. -/
def Thwarts (incident : String) (w : World Drill) : Prop :=
  (World.answer services (.present incident) w).1 ≠ .ok true ∨
    (World.answer services (.remove incident) w).1 ≠ .ok true

/-- A check that cannot remove the record changes nothing. -/
theorem runCheck_of_failed {a : Armed} (h : Thwarts a.incident { w with now := a.due }) :
    World.runCheck services w a = { w with now := a.due } := by
  unfold Thwarts at h
  unfold World.runCheck Escalation.check
  obtain ⟨_, rfl, hpresent⟩ :=
    World.answer_present services_inert a.incident { w with now := a.due }
  rcases hp : World.answer services (.present a.incident) { w with now := a.due } with ⟨r, w₁⟩
  obtain rfl : w₁ = { w with now := a.due } := by simpa [hp] using hpresent
  rw [World.perform_call hp]
  match r with
  | .error e | .ok false => rfl
  | .ok true =>
      rcases hr : World.answer services (.remove a.incident) { w with now := a.due } with ⟨r, w₂⟩
      rw [hp, hr] at h
      have hne : r ≠ .ok true := h.resolve_left fun hne => hne rfl
      obtain ⟨_, rfl, rfl⟩ := World.answer_remove_of_ne services_inert hp hr hne
      dsimp only
      rw [World.perform_call hr]
      match r with
      | .error e | .ok false => rfl
      | .ok true => exact absurd rfl hne

/-! ### Failed checks -/

/-- The world in which a check runs that falls due in the next `seconds`, when those in `front` are
armed before it and those in `back` after it. -/
def reached (w : World Drill) (seconds : Nat) (front back : List Armed) : World Drill :=
  front.foldl (World.runCheck services)
    { w with armed := back.dropWhile (·.due ≤ w.now + seconds) }

/-- As time passes, the checks in front run first. -/
theorem advance_append {seconds : Nat} {front back : List Armed} (harmed : w.armed = front ++ back)
    (hfront : ∀ b ∈ front, b.due ≤ w.now + seconds) :
    w.advance services seconds =
      { (back.takeWhile (·.due ≤ w.now + seconds)).foldl (World.runCheck services)
          (reached w seconds front back) with
        now := w.now + seconds } := by
  have hpos : ∀ b ∈ front, decide (b.due ≤ w.now + seconds) = true := by simpa using hfront
  simp only [World.advance, reached, harmed, List.takeWhile_append_of_pos hpos,
    List.dropWhile_append_of_pos hpos, List.foldl_append]

/-- As time passes, a check that falls due runs in the world that is reached by then. -/
theorem advance_eq {seconds : Nat} {front back : List Armed} {a : Armed}
    (harmed : w.armed = front ++ a :: back)
    (hdue : ∀ b ∈ front ++ [a], b.due ≤ w.now + seconds) :
    w.advance services seconds =
      { (back.takeWhile (·.due ≤ w.now + seconds)).foldl (World.runCheck services)
          (World.runCheck services (reached w seconds front back) a) with
        now := w.now + seconds } := by
  have ha : a.due ≤ w.now + seconds := hdue a (by simp)
  have hreached : reached w seconds front (a :: back) = reached w seconds front back := by
    unfold reached
    rw [List.dropWhile_cons_of_pos (by simpa using ha)]
  rw [advance_append harmed fun b hb => hdue b (by simp [hb]),
    List.takeWhile_cons_of_pos (by simpa using ha), hreached, List.foldl_cons]

/-- Checks do not look at the clock before it is set for them. -/
theorem foldl_now (l : List Armed) (now : Nat) (w : World Drill) :
    { l.foldl (World.runCheck services) { w with now } with now := 0 } =
      { l.foldl (World.runCheck services) w with now := 0 } := by
  cases l <;> rfl

/-- A check that cannot remove the record is over: from then on everything is as if it had never
been armed. -/
theorem advance_of_failed {seconds : Nat} {front back : List Armed} {a : Armed}
    (harmed : w.armed = front ++ a :: back)
    (hdue : ∀ b ∈ front ++ [a], b.due ≤ w.now + seconds)
    (h : World.runCheck services (reached w seconds front back) a =
      { reached w seconds front back with now := a.due }) :
    w.advance services seconds =
      World.advance services seconds { w with armed := front ++ back } := by
  have hwithout := advance_append (w := { w with armed := front ++ back }) rfl
    fun b hb => hdue b (by simp [hb])
  have hnow := foldl_now (back.takeWhile (·.due ≤ w.now + seconds)) a.due
    (reached w seconds front back)
  rw [advance_eq harmed hdue, h, hwithout]
  exact congrArg (fun u : World Drill => { u with now := w.now + seconds }) hnow

/-! ### Failed steps -/

/-- Worlds that differ at most in what was counted. -/
abbrev Recounted (K : Counters → Counters → Prop) : World Drill → World Drill → Prop :=
  World.Alike Eq K

variable {K : Counters → Counters → Prop}

/-- A step does the same in worlds that differ only in what was counted. -/
theorem step_recounted (h : Recounted K (fresh v) (fresh w)) (hK : Counters.Stable K) (s : Step) :
    Agree (Recounted K) (step v s) (step w s) := by
  have hmatch := Services.match_self services
  have hpager := Services.samePager_self services
  have hperform : Agree (Recounted K) (perform (fresh v) s) (perform (fresh w) s) := by
    cases s with
    | start incident settings =>
        obtain ⟨hresult, hafter⟩ := h.perform hmatch hK (p := Escalation.start incident settings)
          (.inl hpager)
        exact ⟨congrArg Outcome.started hresult, hafter⟩
    | acknowledge incident =>
        obtain ⟨hresult, hafter⟩ := h.perform hmatch hK (p := Escalation.acknowledge incident)
          (.inl hpager)
        exact ⟨congrArg Outcome.acknowledged hresult, hafter⟩
    | advance seconds => exact ⟨rfl, h.advance hmatch hK (.inl hpager) seconds⟩
    | setStore mode =>
        refine ⟨rfl, h.now, h.armed, ?_, h.counters⟩
        simp only [perform]
        rw [h.outside]
    | setPager failure =>
        refine ⟨rfl, h.now, h.armed, ?_, h.counters⟩
        simp only [perform]
        rw [h.outside]
  obtain ⟨houtcome, hafter⟩ := hperform
  refine ⟨?_, hafter⟩
  simp only [step_eq, report]
  rw [houtcome, hafter.now, hafter.outside]

/-- Recounted worlds stay so when what was reported is put aside. -/
theorem fresh_recounted (h : Recounted K v w) : Recounted K (fresh v) (fresh w) :=
  ⟨h.now, h.armed, congrArg (fun d : Drill => { d with
    pages := [], store := { d.store with written := [] } }) h.outside, h.counters⟩

/-- What came of a start that met a failing store, or of an acknowledgment that failed. -/
inductive Outcome.Failed : Outcome → Prop
  | started (e : StoreError) : Failed (.started (.error (.store e)))
  | acknowledged (e : OnCallError) : Failed (.acknowledged (.error e))

/-- A failed step leaves the world as it was, up to the count of what was not found. -/
theorem step_of_failed {s : Step} (h : (step w s).1.outcome.Failed) :
    Recounted Counters.SameButNotFound (fresh w) (step w s).2 := by
  rw [step_eq] at h ⊢
  change (perform (fresh w) s).1.Failed at h
  change Recounted _ (fresh w) (perform (fresh w) s).2
  cases s with
  | start incident settings =>
      simp only [perform] at h ⊢
      rcases hr : (fresh w).perform services (Escalation.start incident settings) with ⟨r, u⟩
      rw [hr] at h
      cases h with
      | started e =>
          have hsame := start_of_failed (congrArg Prod.fst hr)
          rw [hr] at hsame
          rw [show u = fresh w from hsame]
          exact ⟨rfl, rfl, rfl, fun _ _ => rfl⟩
  | acknowledge incident =>
      simp only [perform] at h ⊢
      rcases hr : (fresh w).perform services (Escalation.acknowledge incident) with ⟨r, u⟩
      rw [hr] at h
      cases h with
      | acknowledged e =>
          obtain ⟨c, hc, hsame⟩ := acknowledge_of_failed (congrArg Prod.fst hr)
          rw [hr] at hsame
          rw [show u = { fresh w with counters := c } from hsame]
          exact ⟨rfl, rfl, rfl, hc⟩
  | advance | setStore | setPager => cases h

/-- A failed step pages and writes nothing. -/
theorem report_of_failed {s : Step} (h : (step w s).1.outcome.Failed) :
    (step w s).1.pages = [] ∧ (step w s).1.written = [] := by
  have hsame := (step_of_failed h).outside
  simp only [step_eq, report] at hsame ⊢
  rw [← hsame]
  exact ⟨by simp [fresh], rfl⟩

/-! ### Runs without their failed steps -/

/-- The second trace is the first one without some of its failed steps. -/
inductive Pruned : List (Step × Report) → List (Step × Report) → Prop
  | nil : Pruned [] []
  | keep (e : Step × Report) {l l' : List (Step × Report)} :
    Pruned l l' → Pruned (e :: l) (e :: l')
  | drop {e : Step × Report} {l l' : List (Step × Report)} :
    e.2.outcome.Failed → Pruned l l' → Pruned (e :: l) l'

/-- What failed steps have none of is the same without them. -/
theorem Pruned.flatMap_eq {β : Type} {l l' : List (Step × Report)} (h : Pruned l l')
    {f : Step × Report → List β} (hf : ∀ e ∈ l, e.2.outcome.Failed → f e = []) :
    l'.flatMap f = l.flatMap f := by
  induction h with
  | nil => rfl
  | keep e h ih =>
      rw [List.flatMap_cons, List.flatMap_cons, ih fun e he => hf e (List.mem_cons_of_mem _ he)]
  | drop hfailed h ih =>
      rw [List.flatMap_cons, hf _ List.mem_cons_self hfailed, List.nil_append]
      exact ih fun e he => hf e (List.mem_cons_of_mem _ he)

/-- Each report of a trace is on a step from some world. -/
theorem exists_of_mem_trace {steps : List Step} {e : Step × Report} (h : e ∈ trace w steps) :
    ∃ u, e.2 = (step u e.1).1 := by
  induction steps generalizing w with
  | nil => exact absurd h List.not_mem_nil
  | cons s rest ih =>
      rw [trace_cons] at h
      rcases List.mem_cons.mp h with rfl | h
      · exact ⟨w, rfl⟩
      · exact ih h

/-- Without its failed steps a run goes the same way. The world of the pruned run differs from that
of the full one in what was counted, and each failed step only adds to the difference. -/
theorem Pruned.trace_eq {steps : List Step} {kept : List (Step × Report)}
    (h : Recounted Counters.SameButNotFound (fresh v) (fresh w))
    (hpruned : Pruned (trace v steps) kept) :
    trace w (kept.map Prod.fst) = kept ∧
      Counters.SameButNotFound (runFrom v steps).2.counters
        (runFrom w (kept.map Prod.fst)).2.counters := by
  induction steps generalizing v w kept with
  | nil =>
      cases hpruned
      exact ⟨rfl, h.counters⟩
  | cons s rest ih =>
      rw [trace_cons] at hpruned
      cases hpruned with
      | keep _ hpruned =>
          obtain ⟨hreport, hafter⟩ := step_recounted h Counters.SameButNotFound.stable s
          obtain ⟨htrace, hcounters⟩ := ih (fresh_recounted hafter) hpruned
          rw [List.map_cons, trace_cons, hreport, htrace]
          exact ⟨rfl, hcounters⟩
      | drop hfailed hpruned =>
          have hvoid := fresh_recounted (step_of_failed hfailed)
          refine ih ⟨?_, ?_, ?_, ?_⟩ hpruned
          · exact h.now.trans hvoid.now.symm
          · exact h.armed.trans hvoid.armed.symm
          · exact hvoid.outside.symm.trans h.outside
          · intro event hevent
            exact (h.counters event hevent).trans (hvoid.counters event hevent).symm

/-! ### Failures of all kinds -/

/-- What fails is void for the rest of the run. A run goes the same way without any of its failed
starts and acknowledgments, up to the count of what was not found. A check that the store keeps from
removing the record changes nothing, and the time that passes brings what it would bring if the
check had not been armed. And whatever the pagers answer, a run goes the same way up to the results
of starts without a window and the counts of pages that were made and that failed. -/
theorem failures_are_void (w : World Drill) :
    (∀ steps kept, Pruned (trace w steps) kept →
      trace w (kept.map Prod.fst) = kept ∧
      kept.flatMap (·.2.pages) = (trace w steps).flatMap (·.2.pages) ∧
      kept.flatMap (·.2.written) = (trace w steps).flatMap (·.2.written) ∧
      Counters.SameButNotFound (runFrom w steps).2.counters
        (runFrom w (kept.map Prod.fst)).2.counters) ∧
    (∀ seconds front a back, w.armed = front ++ a :: back →
      (∀ b ∈ front ++ [a], b.due ≤ w.now + seconds) →
      ∀ met, met = reached (fresh w) seconds front back →
      Thwarts a.incident { met with now := a.due } →
        World.runCheck services met a = { met with now := a.due } ∧
        step w (.advance seconds) = step { w with armed := front ++ back } (.advance seconds)) ∧
    ∀ steps : List (Pager × Step),
      List.Forall₂ (fun e r => Repaged e.1 e.2 r) (trace w (steps.map Prod.snd))
        (runWith w steps).1 ∧
      Counters.SameButPages (runFrom w (steps.map Prod.snd)).2.counters
        (runWith w steps).2.counters := by
  refine ⟨?_, ?_, ?_⟩
  · intro steps kept hpruned
    obtain ⟨htrace, hcounters⟩ := hpruned.trace_eq ⟨rfl, rfl, rfl, fun _ _ => rfl⟩
    have hempty : ∀ e ∈ trace w steps, e.2.outcome.Failed →
        e.2.pages = [] ∧ e.2.written = [] := by
      intro e he hfailed
      obtain ⟨u, hu⟩ := exists_of_mem_trace he
      rw [hu] at hfailed ⊢
      exact report_of_failed hfailed
    exact ⟨htrace, hpruned.flatMap_eq fun e he hfailed => (hempty e he hfailed).1,
      hpruned.flatMap_eq fun e he hfailed => (hempty e he hfailed).2, hcounters⟩
  · rintro seconds front a back harmed hdue _ rfl hthwarts
    have hcheck := runCheck_of_failed hthwarts
    have hadvance := advance_of_failed (w := fresh w) harmed hdue hcheck
    refine ⟨hcheck, ?_⟩
    simp only [step_eq, perform]
    rw [hadvance]
    rfl
  · intro steps
    have hsame : World.Alike SameRecords Counters.SameButPages w w :=
      ⟨rfl, rfl, ⟨rfl, rfl⟩, fun _ _ => rfl, fun _ => rfl⟩
    obtain ⟨hreports, hend⟩ := runWith_repaged hsame steps
    exact ⟨hreports, hend.counters⟩

/-- The store fails before an acknowledgment and the check: the pages are those of the run without
the acknowledgment, and the check is as if it had not been armed. -/
theorem failures_are_void_outage :
    let w : World Drill := { outside := {} }
    let start : Step := .start "x" { waitMinutes := 1 }
    let broken := (runFrom w [start, .setStore .presentFails]).2
    (trace w [start, .setStore .presentFails, .advance 60]).flatMap (·.2.pages) =
        (trace w [start, .setStore .presentFails, .acknowledge "x", .advance 60]).flatMap
          (·.2.pages) ∧
      step broken (.advance 60) = step { broken with armed := [] } (.advance 60) := by
  intro w start broken
  refine ⟨?_, ?_⟩
  · have hpruned : Pruned
        (trace w [start, .setStore .presentFails, .acknowledge "x", .advance 60]) _ :=
      .keep _ (.keep _ (.drop (.acknowledged (.store (.operation "x" "exists refused")))
        (.keep _ .nil)))
    obtain ⟨htrace, hpages, -, -⟩ := (failures_are_void w).1 _ _ hpruned
    rw [← hpages, ← htrace]
    rfl
  · exact ((failures_are_void broken).2.1 60 [] ⟨60, "x", { waitMinutes := 1 }⟩ [] rfl (by decide) _
      rfl (.inl nofun)).2

end Drill

end IncidentRelay
