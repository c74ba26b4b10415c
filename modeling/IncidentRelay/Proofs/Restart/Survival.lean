import IncidentRelay.Proofs.CallLog
import IncidentRelay.Proofs.Restart.Deployment
import IncidentRelay.Proofs.Schedule.Separation
import Mathlib.Data.List.Induction

/-!
# What survives a restart

A service that is stopped forgets its armed checks, and nothing that it does when it starts again
asks the store what is pending. The record of an incident goes on until it runs out. So an incident
can still be acknowledged after a restart, but nobody is paged for it any more.

## Main statements

* `Deployment.Waiting.step`, `Deployment.Orphaned.step`, `Deployment.Over.step`: what a step does to
  an incident that waits, to one whose check is gone, and to one that is over.
* `Deployment.Waiting.fate`: what has become of an incident after some steps.
* `Deployment.record_survives_restart`: who is paged and what can be acknowledged, in every run with
  any number of restarts.
-/

namespace IncidentRelay

/-- A call that pages nobody. -/
def Call.Unpaged {κ : Type} : Call κ → Prop
  | .page .. => False
  | _ => True

namespace Deployment

/-! ### Runs -/

/-- A step of a run. -/
inductive Step
  | start (incident : String) (settings : Settings.OnCall)
  | acknowledge (incident : String)
  | advance (seconds : Nat)
  /-- The service is stopped, and started again after some seconds. -/
  | rebuild (down : Nat)

/-- Does what a step says. -/
def step (redis : Settings.Redis) (verdict : Page → Except PagingError Unit)
    (w : World Deployment) : Step → World Deployment
  | .start incident settings =>
    (w.perform (services redis verdict) (Escalation.start incident settings)).2
  | .acknowledge incident =>
    (w.perform (services redis verdict) (Escalation.acknowledge incident)).2
  | .advance seconds => w.advance (services redis verdict) seconds
  | .rebuild down => rebuild redis down w

/-- Takes steps one after the other. -/
def run (redis : Settings.Redis) (verdict : Page → Except PagingError Unit)
    (w : World Deployment) (steps : List Step) : World Deployment :=
  steps.foldl (step redis verdict) w

variable (redis : Settings.Redis) (verdict : Page → Except PagingError Unit)
  {incident : String} {w : World Deployment} {α : Type}

/-- A run with one more step. -/
theorem run_concat (w : World Deployment) (steps : List Step) (s : Step) :
    run redis verdict w (steps ++ [s]) = step redis verdict (run redis verdict w steps) s :=
  List.foldl_append ..

/-- The clock never goes back. -/
theorem now_le_step (w : World Deployment) (s : Step) : w.now ≤ (step redis verdict w s).now := by
  cases s with
  | start i settings =>
      exact Nat.le_of_eq (World.now_perform _ (Escalation.start i settings) w).symm
  | acknowledge i => exact Nat.le_of_eq (World.now_perform _ (Escalation.acknowledge i) w).symm
  | advance seconds => exact Nat.le_add_right _ _
  | rebuild down => exact Nat.le_add_right _ _

/-- A step keeps the armed checks in order. -/
theorem sorted_step (h : Armed.Sorted w.armed) (s : Step) :
    Armed.Sorted (step redis verdict w s).armed := by
  cases s with
  | start i settings => exact World.sorted_perform h (Escalation.start i settings)
  | acknowledge i => exact World.sorted_perform h (Escalation.acknowledge i)
  | advance seconds => exact World.sorted_advance h seconds
  | rebuild down => exact List.Pairwise.nil

/-! ### The lane of an incident -/

/-- What of a world is about one incident. -/
@[ext] structure Lane where
  /-- At which instants its record is there. -/
  life : Nat → Bool
  armed : List Armed
  /-- Its pages, last first. -/
  pages : List Page

/-- The lane of an incident. -/
def lane (incident : String) (w : World Deployment) : Lane where
  life t := live t incident w.outside
  armed := w.armed.filter (·.incident = incident)
  pages := w.outside.pages.filter (·.incident = incident)

/-- A call that avoids an incident leaves its lane. -/
theorem lane_answer {c : Call Empty} (h : c.Avoids incident) (w : World Deployment) :
    lane incident (World.answer (services redis verdict) c w).2 = lane incident w := by
  have hlife := (backing redis verdict).live_answer (w := w) trivial h
  refine Lane.ext (funext hlife) ?_ ?_
  · cases c with
    | arm i settings after =>
        have hi : i ≠ incident := h
        exact Armed.filter_insertInto _ _ _ (by simpa using hi)
    | put | present | remove | page | count => rfl
    | send channel i => exact channel.elim
  · cases c with
    | page i settings =>
        have hi : i ≠ incident := h
        simp [World.answer, services, lane, hi]
    | put | present | remove | arm | count => rfl
    | send channel i => exact channel.elim

/-- What is not about an incident leaves its lane alone. -/
theorem lane_perform {p : Process Empty α} (h : p.Every (Call.Avoids incident))
    (w : World Deployment) :
    lane incident (w.perform (services redis verdict) p).2 = lane incident w :=
  World.perform_keeps (I := fun v => lane incident v = lane incident w)
    (fun _ v hc hv => (lane_answer redis verdict hc v).trans hv) h rfl

/-- What pages nobody leaves the pages alone. -/
theorem pages_perform {p : Process Empty α} (h : p.Every Call.Unpaged) (w : World Deployment) :
    (w.perform (services redis verdict) p).2.outside.pages = w.outside.pages := by
  refine World.perform_keeps (I := fun v : World Deployment => v.outside.pages = w.outside.pages)
    ?_ h rfl
  intro c v hc hv
  cases c with
  | page i settings => exact hc.elim
  | put | present | remove | arm | count => exact hv
  | send channel i => exact channel.elim

/-! ### What is about the incident -/

/-- Acknowledging without a record leaves the lane. -/
theorem lane_acknowledge_of_absent (h : live w.now incident w.outside = false) :
    lane incident (step redis verdict w (.acknowledge incident)) = lane incident w := by
  obtain ⟨-, harmed, hlive⟩ := (backing redis verdict).acknowledge_of_absent trivial h
  have hpages := pages_perform redis verdict
    (p := Escalation.acknowledge incident)
    (Escalation.acknowledge_every trivial trivial fun _ => trivial) w
  exact Lane.ext (funext fun t => hlive t incident) (congrArg (List.filter _) harmed)
    (congrArg (List.filter _) hpages)

/-- Acknowledging with a record ends the life of it. -/
theorem lane_acknowledge_of_live (h : live w.now incident w.outside = true) :
    lane incident (step redis verdict w (.acknowledge incident)) =
      { lane incident w with life := fun _ => false } := by
  obtain ⟨-, harmed, hlive⟩ := (backing redis verdict).acknowledge_of_live trivial h
  have hpages := pages_perform redis verdict
    (p := Escalation.acknowledge incident)
    (Escalation.acknowledge_every trivial trivial fun _ => trivial) w
  refine Lane.ext (funext fun t => ?_) (congrArg (List.filter _) harmed)
    (congrArg (List.filter _) hpages)
  exact (hlive t incident).trans (by simp)

/-- Starting with a window writes the record and arms the check. -/
theorem lane_start {settings : Settings.OnCall} (hwait : settings.wait ≠ 0)
    (hfits : (settings.wait + recordGrace) * 1000 ≤ maxWord)
    (harmed : (lane incident w).armed = []) :
    let started := w.perform (services redis verdict) (Escalation.start incident settings)
    started.1 = .ok (.pending settings.wait) ∧
      lane incident started.2 =
        ⟨fun t => decide (t < w.now + settings.wait + recordGrace),
          [⟨w.now + settings.wait, incident, settings⟩], (lane incident w).pages⟩ := by
  have hle : settings.wait + recordGrace ≤ maxWord := by omega
  obtain ⟨next, hstart, hok⟩ := Escalation.start_of_window (κ := Empty) hwait hle incident
  have hput := put_eq redis verdict hfits w.now incident pendingMarker
    w.outside
  have hcall : World.answer (services redis verdict)
      (.put incident pendingMarker (settings.wait + recordGrace)) w =
        (.ok (), { w with outside := { w.outside with redis := ⟨true, ⟨w.now * 1000,
          w.outside.redis.outside.records.put (w.now * 1000) incident pendingMarker
            (max ((settings.wait + recordGrace) * 1000) 1)⟩⟩ } }) := by
    simp only [World.answer, hput]
  have harmed : w.armed.filter (·.incident = incident) = [] := harmed
  rw [hstart, World.perform_call hcall, hok]
  refine ⟨rfl, Lane.ext (funext fun t => ?_) ?_ rfl⟩
  · have hseen := Memory.present_put w.outside.redis.outside.records (w.now * 1000) (t * 1000)
      incident incident pendingMarker (max ((settings.wait + recordGrace) * 1000) 1)
    refine hseen.trans ?_
    rw [if_pos rfl, decide_eq_decide]
    simp only [recordGrace]
    omega
  · exact Armed.filter_insertInto_of_none _ _ (by simp) harmed

/-- A start that leaves its incident pending has a window that can be recorded. -/
theorem window_of_pending {settings : Settings.OnCall} {wait : Nat}
    (h : (w.perform (services redis verdict) (Escalation.start incident settings)).1 =
      .ok (.pending wait)) :
    settings.wait ≠ 0 ∧ (settings.wait + recordGrace) * 1000 ≤ maxWord := by
  have hword : ¬ maxWord < settings.wait + recordGrace := by
    intro hover
    rw [Escalation.start_of_overflow hover] at h
    cases h
  have hbegun := Escalation.start_calls (World.answer (services redis verdict)) incident
    (Nat.not_lt.mp hword) w
  have hwait : settings.wait ≠ 0 := by
    rw [show (Process.run _ _ _).1 = _ from h] at hbegun
    generalize Process.calls _ _ _ = calls at hbegun
    cases hbegun with
    | pending hwait => exact hwait
  refine ⟨hwait, Nat.not_lt.mp ?_⟩
  intro hlong
  obtain ⟨e, hput⟩ := put_of_long redis verdict hlong w.now incident
    pendingMarker w.outside
  have hcall : World.answer (services redis verdict)
      (.put incident pendingMarker (settings.wait + recordGrace)) w =
        (.error e, { w with outside := { w.outside with redis := w.outside.redisAt w.now } }) := by
    simp only [World.answer, hput]
  unfold Escalation.start at h
  simp only [if_neg hwait, if_neg hword] at h
  rw [World.perform_call hcall] at h
  cases h

/-- The check of another incident leaves the lane. -/
theorem lane_runCheck_of_ne {a : Armed} (ha : a.incident ≠ incident) (w : World Deployment) :
    lane incident (World.runCheck (services redis verdict) w a) = lane incident w :=
  lane_perform redis verdict (Escalation.check_every trivial ha ha fun _ => trivial)
    { w with now := a.due }

/-- Without a record a check does nothing. -/
theorem lane_runCheck_of_absent {a : Armed} (ha : a.incident = incident)
    (habsent : (lane incident w).life a.due = false) :
    lane incident (World.runCheck (services redis verdict) w a) = lane incident w := by
  have hcheck := (backing redis verdict).check_of_absent (w := { w with now := a.due }) trivial
    habsent a.settings
  unfold World.runCheck
  rw [ha, hcheck]
  have hsame := ((backing redis verdict).present a.due incident w.outside trivial).2.2
  exact Lane.ext (funext fun t => hsame t incident) rfl rfl

/-- A page is made, whatever the pager says of it. -/
theorem lane_page (incident : String) (settings : Settings.OnCall) (w : World Deployment) :
    lane incident (w.perform (services redis verdict)
        ((Escalation.page .deferred incident settings).bind fun _ => .done ())).2 =
      { lane incident w with
        pages := ⟨w.now, incident, settings⟩ :: (lane incident w).pages } := by
  unfold Escalation.page
  simp only [World.perform, Process.bind, Process.run, World.answer, services]
  cases verdict ⟨w.now, incident, settings⟩ <;>
    simp [lane, live, Process.run, Process.bind, World.answer]

/-- A check that finds the record removes it and pages. -/
theorem lane_runCheck_of_live {a : Armed} (ha : a.incident = incident)
    (hlive : (lane incident w).life a.due = true) :
    lane incident (World.runCheck (services redis verdict) w a) =
      ⟨fun _ => false, (lane incident w).armed,
        ⟨a.due, incident, a.settings⟩ :: (lane incident w).pages⟩ := by
  have hcheck := (backing redis verdict).check_of_live (w := { w with now := a.due }) trivial
    hlive a.settings
  unfold World.runCheck
  rw [ha, hcheck, lane_page]
  refine Lane.ext (funext fun t => ?_) rfl rfl
  have hgone := (backing redis verdict).live_claimed (w := { w with now := a.due }) trivial
    incident t incident
  exact hgone.trans (by simp)

/-! ### The clock -/

/-- Checks of other incidents leave the lane. -/
theorem lane_foldl_of_ne (l : List Armed) (hl : ∀ a ∈ l, a.incident ≠ incident)
    (w : World Deployment) :
    lane incident (l.foldl (World.runCheck (services redis verdict)) w) = lane incident w := by
  induction l generalizing w with
  | nil => rfl
  | cons a rest ih =>
      rw [List.foldl_cons, ih (fun b hb => hl b (List.mem_cons_of_mem a hb)),
        lane_runCheck_of_ne redis verdict (hl a List.mem_cons_self)]

/-- Without a record, checks leave the lane. -/
theorem lane_foldl_of_absent (l : List Armed) (habsent : ∀ t, (lane incident w).life t = false) :
    lane incident (l.foldl (World.runCheck (services redis verdict)) w) = lane incident w := by
  induction l generalizing w with
  | nil => rfl
  | cons a rest ih =>
      have ha : lane incident (World.runCheck (services redis verdict) w a) = lane incident w := by
        by_cases ha : a.incident = incident
        · exact lane_runCheck_of_absent redis verdict ha (habsent a.due)
        · exact lane_runCheck_of_ne redis verdict ha w
      rw [List.foldl_cons, ih (by rw [ha]; exact habsent), ha]

/-- Of the checks that fall due only the incident's own concerns its lane. -/
theorem lane_foldl_of_own {l : List Armed} {x : Armed} (hl : l.filter (·.incident = incident) = [x])
    (hlive : (lane incident w).life x.due = true) :
    lane incident (l.foldl (World.runCheck (services redis verdict)) w) =
      ⟨fun _ => false, (lane incident w).armed,
        ⟨x.due, incident, x.settings⟩ :: (lane incident w).pages⟩ := by
  obtain ⟨front, back, rfl, hfront, hx, hback⟩ := List.filter_eq_cons_iff.mp hl
  have hbefore := lane_foldl_of_ne redis verdict front
    (by simpa using hfront) w
  rw [List.foldl_append, List.foldl_cons,
    lane_foldl_of_ne redis verdict back (by simpa using List.filter_eq_nil_iff.mp hback),
    lane_runCheck_of_live redis verdict (by simpa using hx) (by rwa [hbefore]), hbefore]

/-- What is about an incident while time passes, before the checks that fall due run. -/
theorem lane_of_due (incident : String) (hsorted : Armed.Sorted w.armed) (t : Nat) :
    (w.armed.takeWhile (·.due ≤ t)).filter (·.incident = incident) =
        (lane incident w).armed.takeWhile (·.due ≤ t) ∧
      lane incident { w with armed := w.armed.dropWhile (·.due ≤ t) } =
        { lane incident w with armed := (lane incident w).armed.dropWhile (·.due ≤ t) } := by
  obtain ⟨hdue, hrest⟩ := hsorted.filter_takeWhile (fun a => decide (a.incident = incident)) t
  exact ⟨hdue, Lane.ext rfl hrest rfl⟩

/-- Without a record nobody is paged while time passes. -/
theorem lane_advance_of_absent (hsorted : Armed.Sorted w.armed)
    (habsent : ∀ t, (lane incident w).life t = false) (seconds : Nat) :
    lane incident (w.advance (services redis verdict) seconds) =
      { lane incident w with
        armed := (lane incident w).armed.dropWhile (·.due ≤ w.now + seconds) } := by
  let rest : World Deployment :=
    { w with armed := w.armed.dropWhile (·.due ≤ w.now + seconds) }
  have hrest : lane incident rest = { lane incident w with
      armed := (lane incident w).armed.dropWhile (·.due ≤ w.now + seconds) } :=
    (lane_of_due incident hsorted (w.now + seconds)).2
  exact (lane_foldl_of_absent redis verdict (w := rest) _ habsent).trans hrest

/-- As long as no check of the incident falls due nothing happens in its lane. -/
theorem lane_advance_of_later (hsorted : Armed.Sorted w.armed) {seconds : Nat}
    (hlater : ∀ a ∈ (lane incident w).armed, w.now + seconds < a.due) :
    lane incident (w.advance (services redis verdict) seconds) = lane incident w := by
  obtain ⟨hdue, hrest⟩ := lane_of_due incident hsorted (w.now + seconds)
  have hnone : (lane incident w).armed.takeWhile (·.due ≤ w.now + seconds) = [] ∧
      (lane incident w).armed.dropWhile (·.due ≤ w.now + seconds) = (lane incident w).armed := by
    cases harmed : (lane incident w).armed with
    | nil => exact ⟨rfl, rfl⟩
    | cons a rest =>
        have ha := hlater a (by simp [harmed])
        simp [Nat.not_le.mpr ha]
  rw [hnone.1] at hdue
  rw [hnone.2] at hrest
  have hothers := lane_foldl_of_ne redis verdict _ (by simpa using List.filter_eq_nil_iff.mp hdue)
  exact (hothers _).trans hrest

/-- A check that falls due pages at its instant if the record is there. -/
theorem lane_advance_of_due (hsorted : Armed.Sorted w.armed) {x : Armed}
    (hx : (lane incident w).armed = [x]) {seconds : Nat} (hdue : x.due ≤ w.now + seconds)
    (hlive : (lane incident w).life x.due = true) :
    lane incident (w.advance (services redis verdict) seconds) =
      ⟨fun _ => false, [], ⟨x.due, incident, x.settings⟩ :: (lane incident w).pages⟩ := by
  obtain ⟨hown, hrest⟩ := lane_of_due incident hsorted (w.now + seconds)
  rw [hx] at hown hrest
  simp only [hdue, decide_true, List.takeWhile_cons_of_pos, List.takeWhile_nil,
    List.dropWhile_cons_of_pos, List.dropWhile_nil] at hown hrest
  refine (lane_foldl_of_own redis verdict hown (w := { w with
    armed := w.armed.dropWhile (·.due ≤ w.now + seconds) }) hlive).trans ?_
  rw [hrest]

/-! ### The phases of an incident -/

/-- The incident waits for its acknowledgment, and its check is armed. -/
structure Waiting (incident : String) (settings : Settings.OnCall) (due : Nat)
    (w : World Deployment) : Prop where
  sorted : Armed.Sorted w.armed
  clock : w.now < due
  lane : lane incident w =
    ⟨fun t => decide (t < due + recordGrace), [⟨due, incident, settings⟩], []⟩

/-- The record of the incident is left, and nothing is armed for it any more. -/
structure Orphaned (incident : String) (due : Nat) (w : World Deployment) : Prop where
  sorted : Armed.Sorted w.armed
  lane : lane incident w = ⟨fun t => decide (t < due + recordGrace), [], []⟩

/-- The incident is over, with these pages: its record is gone. -/
structure Over (incident : String) (pages : List Page) (w : World Deployment) : Prop where
  sorted : Armed.Sorted w.armed
  life : ∀ t, (lane incident w).life t = false
  pages : (lane incident w).pages = pages

/-- What is not about the incident and takes no time leaves its lane alone. -/
theorem lane_step_elsewhere {s : Step} (hstart : ∀ settings, s ≠ .start incident settings)
    (hack : s ≠ .acknowledge incident) (hadvance : ∀ seconds, s ≠ .advance seconds)
    (hrebuild : ∀ down, s ≠ .rebuild down) (w : World Deployment) :
    lane incident (step redis verdict w s) = lane incident w ∧
      (step redis verdict w s).now = w.now := by
  cases s with
  | start i settings =>
      have hi : i ≠ incident := by
        rintro rfl
        exact hstart settings rfl
      exact ⟨lane_perform redis verdict (Escalation.start_every (fun _ _ => hi) hi (fun _ => hi)
        fun _ => trivial) w, World.now_perform _ (Escalation.start i settings) w⟩
  | acknowledge i =>
      have hi : i ≠ incident := by
        rintro rfl
        exact hack rfl
      have hcalls : (Escalation.acknowledge (κ := Empty) i).Every (Call.Avoids incident) :=
        Escalation.acknowledge_every trivial hi fun _ => trivial
      exact ⟨lane_perform redis verdict hcalls w,
        World.now_perform _ (Escalation.acknowledge i) w⟩
  | advance seconds => exact absurd rfl (hadvance seconds)
  | rebuild down => exact absurd rfl (hrebuild down)

/-- Building the workflow anew forgets the armed checks, and nothing else of the lane. -/
theorem lane_rebuild (incident : String) (down : Nat) (w : World Deployment) :
    lane incident (step redis verdict w (.rebuild down)) =
      { lane incident w with armed := [] } := by
  simp only [step, rebuild_eq]
  rfl

/-- Once an incident is over it stays so. -/
theorem Over.step {pages : List Page} (h : Over incident pages w) {s : Step}
    (hstart : ∀ settings, s ≠ .start incident settings) :
    Over incident pages (step redis verdict w s) ∧
      (lane incident (Deployment.step redis verdict w s)).armed.Sublist
        (lane incident w).armed := by
  suffices hlane : ∃ armed : List Armed, armed.Sublist (lane incident w).armed ∧
      lane incident (Deployment.step redis verdict w s) = { lane incident w with armed } by
    obtain ⟨armed, hsub, hlane⟩ := hlane
    refine ⟨⟨sorted_step redis verdict h.sorted s, ?_, ?_⟩, ?_⟩
    · rw [hlane]
      exact h.life
    · rw [hlane]
      exact h.pages
    · rw [hlane]
      exact hsub
  by_cases hack : s = .acknowledge incident
  · subst hack
    exact ⟨_, List.Sublist.refl _, lane_acknowledge_of_absent redis verdict (h.life w.now)⟩
  by_cases hadvance : ∃ seconds, s = .advance seconds
  · obtain ⟨seconds, rfl⟩ := hadvance
    exact ⟨_, List.dropWhile_sublist _,
      lane_advance_of_absent redis verdict h.sorted h.life seconds⟩
  by_cases hrebuild : ∃ down, s = .rebuild down
  · obtain ⟨down, rfl⟩ := hrebuild
    exact ⟨[], List.nil_sublist _, lane_rebuild redis verdict incident down w⟩
  · exact ⟨_, List.Sublist.refl _, (lane_step_elsewhere redis verdict hstart hack
      (fun n hn => hadvance ⟨n, hn⟩) (fun n hn => hrebuild ⟨n, hn⟩) w).1⟩

/-- A lane that is over stays over until the incident is started again. -/
theorem Over.run {pages : List Page} (h : Over incident pages w) (steps : List Step)
    (hstart : ∀ s ∈ steps, ∀ settings, s ≠ .start incident settings) :
    Over incident pages (run redis verdict w steps) ∧
      (lane incident (Deployment.run redis verdict w steps)).armed.Sublist
        (lane incident w).armed := by
  induction steps generalizing w with
  | nil => exact ⟨h, List.Sublist.refl _⟩
  | cons s rest ih =>
      obtain ⟨hover, hsub⟩ := h.step redis verdict
        (hstart s List.mem_cons_self)
      obtain ⟨hend, hsub'⟩ := ih hover fun d hd => hstart d (List.mem_cons_of_mem s hd)
      exact ⟨hend, hsub'.trans hsub⟩

/-- An incident whose check is gone is never paged for, but it can be acknowledged until its record
has run out. -/
theorem Orphaned.step {due : Nat} (h : Orphaned incident due w) {s : Step}
    (hstart : ∀ settings, s ≠ .start incident settings) :
    Orphaned incident due (step redis verdict w s) ∧
        (s = .acknowledge incident → due + recordGrace ≤ w.now) ∨
      Over incident [] (Deployment.step redis verdict w s) ∧ s = .acknowledge incident := by
  have hsorted := sorted_step redis verdict h.sorted s
  by_cases hack : s = .acknowledge incident
  · subst hack
    have hlife : live w.now incident w.outside = decide (w.now < due + recordGrace) :=
      congrArg (fun l : Lane => l.life w.now) h.lane
    by_cases hclock : w.now < due + recordGrace
    · have hlane := lane_acknowledge_of_live redis verdict
        (hlife.trans (decide_eq_true hclock))
      rw [h.lane] at hlane
      exact .inr ⟨⟨hsorted, fun _ => by rw [hlane], by rw [hlane]⟩, rfl⟩
    · have hlane := lane_acknowledge_of_absent redis verdict
        (hlife.trans (decide_eq_false hclock))
      exact .inl ⟨⟨hsorted, hlane.trans h.lane⟩, fun _ => Nat.not_lt.mp hclock⟩
  · refine .inl ⟨⟨hsorted, ?_⟩, fun heq => absurd heq hack⟩
    have harmed : (Deployment.lane incident w).armed = [] := congrArg Lane.armed h.lane
    by_cases hadvance : ∃ seconds, s = .advance seconds
    · obtain ⟨seconds, rfl⟩ := hadvance
      exact (lane_advance_of_later redis verdict h.sorted (by simp [harmed])).trans h.lane
    by_cases hrebuild : ∃ down, s = .rebuild down
    · obtain ⟨down, rfl⟩ := hrebuild
      rw [lane_rebuild, h.lane]
    · exact (lane_step_elsewhere redis verdict hstart hack (fun n hn => hadvance ⟨n, hn⟩)
        (fun n hn => hrebuild ⟨n, hn⟩) w).1.trans h.lane

/-- What can become of an incident that waits. -/
theorem Waiting.step {settings : Settings.OnCall} {due : Nat} (h : Waiting incident settings due w)
    {s : Step} (hstart : ∀ other, s ≠ .start incident other) :
    (Waiting incident settings due (step redis verdict w s) ∧ s ≠ .acknowledge incident ∧
        ∀ down, s ≠ .rebuild down) ∨
      (Over incident [] (Deployment.step redis verdict w s) ∧ s = .acknowledge incident) ∨
      (Orphaned incident due (Deployment.step redis verdict w s) ∧ ∃ down, s = .rebuild down) ∨
      (Over incident [⟨due, incident, settings⟩] (Deployment.step redis verdict w s) ∧
        due ≤ (Deployment.step redis verdict w s).now ∧ ∃ seconds, s = .advance seconds) := by
  have hsorted := sorted_step redis verdict h.sorted s
  have harmed : (Deployment.lane incident w).armed = [⟨due, incident, settings⟩] :=
    congrArg Lane.armed h.lane
  have hlife (t : Nat) : (Deployment.lane incident w).life t = decide (t < due + recordGrace) :=
    congrArg (fun l : Lane => l.life t) h.lane
  have hclock := h.clock
  by_cases hack : s = .acknowledge incident
  · subst hack
    have hlive : live w.now incident w.outside = true :=
      (hlife w.now).trans (decide_eq_true (Nat.lt_add_right _ hclock))
    have hlane := lane_acknowledge_of_live redis verdict hlive
    rw [h.lane] at hlane
    exact .inr (.inl ⟨⟨hsorted, fun _ => by rw [hlane], by rw [hlane]⟩, rfl⟩)
  by_cases hrebuild : ∃ down, s = .rebuild down
  · obtain ⟨down, rfl⟩ := hrebuild
    have hlane := lane_rebuild redis verdict incident down w
    rw [h.lane] at hlane
    exact .inr (.inr (.inl ⟨⟨hsorted, hlane⟩, down, rfl⟩))
  have hnot (down : Nat) : s ≠ .rebuild down := fun heq => hrebuild ⟨down, heq⟩
  by_cases hadvance : ∃ seconds, s = .advance seconds
  · obtain ⟨seconds, rfl⟩ := hadvance
    by_cases hdue : due ≤ w.now + seconds
    · have hlive : (Deployment.lane incident w).life due = true :=
        (hlife due).trans (decide_eq_true (Nat.lt_add_of_pos_right (by decide)))
      have hlane := lane_advance_of_due redis verdict h.sorted harmed hdue
        hlive
      rw [congrArg Lane.pages h.lane] at hlane
      have hover : Over incident [⟨due, incident, settings⟩]
          (Deployment.step redis verdict w (.advance seconds)) :=
        ⟨hsorted, fun _ => congrArg (fun l : Lane => l.life _) hlane, congrArg Lane.pages hlane⟩
      exact .inr (.inr (.inr ⟨hover, hdue, seconds, rfl⟩))
    · have hlater : ∀ a ∈ (Deployment.lane incident w).armed, w.now + seconds < a.due := by
        simpa [harmed] using hdue
      have hlane := lane_advance_of_later redis verdict h.sorted hlater
      exact .inl ⟨⟨hsorted, Nat.lt_of_not_le hdue, hlane.trans h.lane⟩, hack, hnot⟩
  · obtain ⟨hlane, hnow⟩ := lane_step_elsewhere redis verdict hstart hack
      (fun n hn => hadvance ⟨n, hn⟩) hnot w
    exact .inl ⟨⟨hsorted, hnow ▸ hclock, hlane.trans h.lane⟩, hack, hnot⟩

/-! ### What becomes of an incident -/

/-- Some step of a kind is taken before an instant. -/
def Before (redis : Settings.Redis) (verdict : Page → Except PagingError Unit) (due : Nat)
    (kind : Step → Prop) (w : World Deployment) (steps : List Step) : Prop :=
  ∃ front s back, steps = front ++ s :: back ∧ kind s ∧ (run redis verdict w front).now < due

/-- A step that stops the service and starts it again. -/
def Step.IsRebuild (s : Step) : Prop := ∃ down, s = .rebuild down

variable {redis verdict}

theorem not_before_nil (due : Nat) (kind : Step → Prop) (w : World Deployment) :
    ¬ Before redis verdict due kind w [] := by
  rintro ⟨front, s, back, hsteps, -, -⟩
  exact absurd hsteps (by simp)

/-- A step before an instant is one of the steps so far, or the next one. -/
theorem before_concat {due : Nat} {kind : Step → Prop} {steps : List Step} {s : Step} :
    Before redis verdict due kind w (steps ++ [s]) ↔
      Before redis verdict due kind w steps ∨
        kind s ∧ (run redis verdict w steps).now < due := by
  constructor
  · rintro ⟨front, d, back, hsteps, hkind, hclock⟩
    rcases List.eq_nil_or_concat back with rfl | ⟨rest, last, rfl⟩
    · obtain ⟨rfl, hd⟩ := List.append_inj' hsteps rfl
      obtain rfl : s = d := by simpa using hd
      exact .inr ⟨hkind, hclock⟩
    · rw [List.concat_eq_append, ← List.cons_append, ← List.append_assoc] at hsteps
      exact .inl ⟨front, d, rest, (List.append_inj' hsteps rfl).1, hkind, hclock⟩
  · rintro (⟨front, d, back, rfl, hkind, hclock⟩ | ⟨hkind, hclock⟩)
    · exact ⟨front, d, back ++ [s], by simp, hkind, hclock⟩
    · exact ⟨steps, s, [], rfl, hkind, hclock⟩

/-- What was before an instant stays so when steps follow. -/
theorem Before.concat {due : Nat} {kind : Step → Prop} {steps : List Step}
    (h : Before redis verdict due kind w steps) (s : Step) :
    Before redis verdict due kind w (steps ++ [s]) :=
  before_concat.mpr (.inl h)

/-- A step before an instant is one of the steps. -/
theorem mem_of_before {due : Nat} {s : Step} {steps : List Step}
    (h : Before redis verdict due (· = s) w steps) : s ∈ steps := by
  obtain ⟨front, d, back, rfl, rfl, -⟩ := h
  simp

/-- What has become of an incident that waited in `w`. -/
inductive Fate (redis : Settings.Redis) (verdict : Page → Except PagingError Unit)
    (incident : String) (settings : Settings.OnCall) (due : Nat) (w : World Deployment)
    (steps : List Step) : Prop
  | waiting (h : Waiting incident settings due (run redis verdict w steps))
      (hack : .acknowledge incident ∉ steps)
      (hstop : ¬ Before redis verdict due Step.IsRebuild w steps)
  | orphaned (h : Orphaned incident due (run redis verdict w steps))
      (hack : .acknowledge incident ∈ steps → due + recordGrace ≤ (run redis verdict w steps).now)
      (hstop : Before redis verdict due Step.IsRebuild w steps)
  | acknowledged (h : Over incident [] (run redis verdict w steps))
      (hack : .acknowledge incident ∈ steps)
      (hearly : Before redis verdict due (· = .acknowledge incident) w steps ∨
        Before redis verdict due Step.IsRebuild w steps)
  | paged (h : Over incident [⟨due, incident, settings⟩] (run redis verdict w steps))
      (hdue : due ≤ (run redis verdict w steps).now)
      (hack : ¬ Before redis verdict due (· = .acknowledge incident) w steps)
      (hstop : ¬ Before redis verdict due Step.IsRebuild w steps)

variable (redis verdict) in
/-- Every incident that waits is acknowledged, or paged for when its check is due, or its check is
lost with the service that armed it. -/
theorem Waiting.fate {settings : Settings.OnCall} {due : Nat} (h : Waiting incident settings due w)
    (steps : List Step) (hstart : ∀ s ∈ steps, ∀ other, s ≠ .start incident other) :
    Fate redis verdict incident settings due w steps := by
  induction steps using List.reverseRecOn with
  | nil => exact .waiting h List.not_mem_nil (not_before_nil due _ w)
  | append_singleton front s ih =>
      have hlast := hstart s (by simp)
      have hnow := now_le_step redis verdict (run redis verdict w front) s
      have hmem : Step.acknowledge incident ∈ front ++ [s] ↔
          .acknowledge incident ∈ front ∨ s = .acknowledge incident := by
        simp [eq_comm]
      cases ih fun d hd => hstart d (by simp [hd]) with
      | waiting hw hack hstop =>
          have hclock := hw.clock
          rcases hw.step redis verdict hlast with
            ⟨hw', hne, hnot⟩ | ⟨hover, hs⟩ | ⟨horphan, hs⟩ | ⟨hover, hdue, seconds, hs⟩
          · refine .waiting (by rwa [run_concat]) ?_ ?_
            · simp only [hmem, hack, hne, or_self, not_false_eq_true]
            · rw [before_concat]
              rintro (hb | ⟨⟨down, hs⟩, -⟩)
              · exact hstop hb
              · exact hnot down hs
          · exact .acknowledged (by rwa [run_concat]) (hmem.mpr (.inr hs))
              (.inl (before_concat.mpr (.inr ⟨hs, hclock⟩)))
          · refine .orphaned (by rwa [run_concat]) ?_ (before_concat.mpr (.inr ⟨hs, hclock⟩))
            intro hack'
            obtain ⟨down, rfl⟩ := hs
            exact absurd (hmem.mp hack') (by simp [hack])
          · subst hs
            refine .paged (by rwa [run_concat]) (by rwa [run_concat]) ?_ ?_
            · intro hb
              exact absurd (hmem.mp (mem_of_before hb)) (by simp [hack])
            · rw [before_concat]
              rintro (hb | ⟨⟨down, hs⟩, -⟩)
              · exact hstop hb
              · cases hs
      | orphaned ho hack hstop =>
          rcases ho.step redis verdict hlast with ⟨ho', hlate⟩ | ⟨hover, hs⟩
          · refine .orphaned (by rwa [run_concat]) ?_ (hstop.concat s)
            intro hack'
            rw [run_concat]
            rcases hmem.mp hack' with hin | hs
            · exact Nat.le_trans (hack hin) hnow
            · exact Nat.le_trans (hlate hs) hnow
          · exact .acknowledged (by rwa [run_concat]) (hmem.mpr (.inr hs))
              (.inr (hstop.concat s))
      | acknowledged hover hack hearly =>
          refine .acknowledged ?_ (hmem.mpr (.inl hack)) ?_
          · rw [run_concat]
            exact (hover.step redis verdict hlast).1
          · exact hearly.imp (fun hb => hb.concat s) fun hb => hb.concat s
      | paged hover hdue hack hstop =>
          have hlate (kind : Step → Prop) (hnot : ¬ Before redis verdict due kind w front) :
              ¬ Before redis verdict due kind w (front ++ [s]) := by
            rw [before_concat]
            rintro (hb | ⟨-, hclock⟩)
            · exact hnot hb
            · exact absurd hclock (Nat.not_lt.mpr hdue)
          refine .paged ?_ ?_ (hlate _ hack) (hlate _ hstop)
          · rw [run_concat]
            exact (hover.step redis verdict hlast).1
          · rw [run_concat]
            exact Nat.le_trans hdue hnow

/-- Before its start nothing is known of an incident, and a start that leaves it pending lets it
wait for its window. -/
theorem waiting_of_start {settings : Settings.OnCall} {wait : Nat} (h : Over incident [] w)
    (harmed : (lane incident w).armed = [])
    (hpending : (w.perform (services redis verdict) (Escalation.start incident settings)).1 =
      .ok (.pending wait)) :
    Waiting incident settings (w.now + wait)
      (w.perform (services redis verdict) (Escalation.start incident settings)).2 := by
  obtain ⟨hwait, hfits⟩ := window_of_pending redis verdict hpending
  obtain ⟨hresult, hlane⟩ := lane_start redis verdict hwait hfits harmed
  obtain rfl : settings.wait = wait := by simpa [hresult] using hpending
  have hnow := World.now_perform (services redis verdict) (Escalation.start incident settings) w
  refine ⟨World.sorted_perform h.sorted _, ?_, ?_⟩
  · omega
  · rw [hlane, h.pages]

variable (redis verdict) in
/-- A restart keeps the record of an incident and loses its check. An incident is started once and
left pending, over a Redis server that goes on while the service is stopped and started again any
number of times; other incidents come and go, and the pager may accept a page or not. Then it is
paged for at its deadline if it was neither acknowledged nor the service stopped before, and
otherwise never. It can be acknowledged once: until its deadline, and if the service was stopped
before that, until its record runs out a minute later. -/
theorem record_survives_restart (server : RedisServer) (incident : String)
    (settings : Settings.OnCall) (wait : Nat) (pre post : List Step)
    (hnew : server.records.get? incident = none)
    (honce : ∀ s ∈ pre ++ post, ∀ other, s ≠ .start incident other) :
    let before := run redis verdict { outside := { redis := ⟨true, server⟩ } } pre
    let started := before.perform (services redis verdict) (Escalation.start incident settings)
    let due := before.now + wait
    started.1 = .ok (.pending wait) → ∀ front back, post = front ++ back →
      let w := run redis verdict started.2 front
      let pages := w.outside.pages.filter (·.incident = incident)
      let stopped := Before redis verdict due Step.IsRebuild started.2 front
      let acknowledged := Before redis verdict due (· = .acknowledge incident) started.2 front
      let acknowledgment := (w.perform (services redis verdict) (Escalation.acknowledge incident)).1
      (due ≤ w.now ∧ ¬ stopped ∧ ¬ acknowledged → pages = [⟨due, incident, settings⟩]) ∧
        (w.now < due ∨ stopped ∨ acknowledged → pages = []) ∧
        (.acknowledge incident ∉ front ∧ (w.now < due ∨ stopped ∧ w.now < due + recordGrace) →
          acknowledgment = .ok ()) ∧
        (.acknowledge incident ∈ front ∨ due ≤ w.now ∧ (stopped → due + recordGrace ≤ w.now) →
          acknowledgment = .error (.notFound incident)) := by
  intro before started due hpending front back hpost w pages stopped acknowledged acknowledgment
  have hboot : Over incident [] { outside := { redis := ⟨true, server⟩ } } := by
    refine ⟨List.Pairwise.nil, ?_, rfl⟩
    intro t
    simp only [lane, live, Memory.present, hnew]
  obtain ⟨hbefore, harmed⟩ := hboot.run redis verdict pre
    fun s hs => honce s (List.mem_append_left post hs)
  have hwaiting : Waiting incident settings due started.2 :=
    waiting_of_start hbefore (List.sublist_nil.mp harmed) hpending
  have hfate : Fate redis verdict incident settings due started.2 front :=
    hwaiting.fate redis verdict front fun s hs => honce s (by simp [hpost, hs])
  have hfound (h : (lane incident w).life w.now = true) : acknowledgment = .ok () :=
    ((backing redis verdict).acknowledge_of_live trivial h).1
  have hmissing (h : (lane incident w).life w.now = false) :
      acknowledgment = .error (.notFound incident) :=
    ((backing redis verdict).acknowledge_of_absent trivial h).1
  cases hfate with
  | waiting h hack hstop =>
      have hclock : w.now < due := h.clock
      have hlive : (lane incident w).life w.now = true := by
        rw [h.lane]
        exact decide_eq_true (Nat.lt_add_right _ hclock)
      refine ⟨?_, ?_, fun _ => hfound hlive, ?_⟩
      · rintro ⟨hdue, -, -⟩
        exact absurd hclock (Nat.not_lt.mpr hdue)
      · exact fun _ => congrArg Lane.pages h.lane
      · rintro (hin | ⟨hdue, -⟩)
        · exact absurd hin hack
        · exact absurd hclock (Nat.not_lt.mpr hdue)
  | orphaned h hack hstop =>
      have hlife : (lane incident w).life w.now = decide (w.now < due + recordGrace) :=
        congrArg (fun l : Lane => l.life w.now) h.lane
      refine ⟨fun hnot => absurd hstop hnot.2.1, fun _ => congrArg Lane.pages h.lane, ?_, ?_⟩
      · rintro ⟨-, hclock⟩
        refine hfound (hlife.trans (decide_eq_true ?_))
        rcases hclock with hclock | ⟨-, hclock⟩
        · exact Nat.lt_add_right _ hclock
        · exact hclock
      · intro hlate
        refine hmissing (hlife.trans (decide_eq_false (Nat.not_lt.mpr ?_)))
        rcases hlate with hin | ⟨-, hout⟩
        · exact hack hin
        · exact hout hstop
  | acknowledged h hack hearly =>
      refine ⟨?_, fun _ => h.pages, fun hnot => absurd hack hnot.1,
        fun _ => hmissing (h.life w.now)⟩
      rintro ⟨-, hstop, hnot⟩
      exact absurd hearly (not_or.mpr ⟨hnot, hstop⟩)
  | paged h hdue hack hstop =>
      refine ⟨fun _ => h.pages, ?_, ?_, fun _ => hmissing (h.life w.now)⟩
      · rintro (hclock | hstop' | hack')
        · exact absurd hclock (Nat.not_lt.mpr hdue)
        · exact absurd hstop' hstop
        · exact absurd hack' hack
      · rintro ⟨-, hclock | ⟨hstop', -⟩⟩
        · exact absurd hclock (Nat.not_lt.mpr hdue)
        · exact absurd hstop' hstop

/-- A service that is stopped half a minute into the window, and back again long before the
deadline: a minute later nobody has been paged, and the incident can still be acknowledged. -/
theorem record_survives_restart_minute :
    let steps : List Step := [.advance 30, .rebuild 10, .advance 50]
    let w := run {} (fun _ => .ok ()) (World.perform (services {} fun _ => .ok ())
      (Escalation.start "x" { waitMinutes := 1 }) { outside := { redis := ⟨true, {}⟩ } }).2 steps
    w.outside.pages.filter (·.incident = "x") = [] ∧
      (w.perform (services {} fun _ => .ok ()) (Escalation.acknowledge "x")).1 = .ok () := by
  intro steps w
  have hstopped : Before {} (fun _ => .ok ()) 60 Step.IsRebuild
      (World.perform (services {} fun _ => .ok ())
        (Escalation.start "x" { waitMinutes := 1 }) { outside := { redis := ⟨true, {}⟩ } }).2
      steps :=
    ⟨[.advance 30], .rebuild 10, [.advance 50], rfl, ⟨10, rfl⟩, by decide +kernel⟩
  have hclock : w.now < 60 + recordGrace := by decide +kernel
  obtain ⟨-, hunpaged, hpending, -⟩ := record_survives_restart {} (fun _ => .ok ()) {} "x"
    { waitMinutes := 1 } 60 [] steps rfl (by simp [steps]) rfl steps []
    (List.append_nil steps).symm
  exact ⟨hunpaged (.inr (.inl hstopped)), hpending ⟨by simp [steps], .inr ⟨hstopped, hclock⟩⟩⟩

/-- An incident is left pending for a minute, and the service is stopped and started again at once.
It goes on for more than two minutes, the store and the pager working all the time, and nobody is
paged: not while the record is there, and not later. And an incident that is started again while it
is pending is not paged for at its second deadline, but at its first. -/
theorem unpaged_after_restart :
    let go := run {} (fun _ => .ok ()) { outside := { redis := ⟨true, {}⟩ } }
    let one : Settings.OnCall := { waitMinutes := 1 }
    let two : Settings.OnCall := { waitMinutes := 2 }
    let restarted : List Step := [.start "x" one, .rebuild 0, .advance 119]
    let again : List Step := [.start "x" one, .start "x" two, .advance 130]
    (((go []).perform (services {} fun _ => .ok ()) (Escalation.start "x" one)).1 =
          .ok (.pending 60) ∧
        live 119 "x" (go restarted).outside = true ∧ (go restarted).outside.pages = [] ∧
        (go (restarted ++ [.advance 11])).outside.pages = []) ∧
      ((go [.start "x" one]).perform (services {} fun _ => .ok ()) (Escalation.start "x" two)).1 =
          .ok (.pending 120) ∧
        (go again).outside.pages = [⟨60, "x", one⟩] := by
  refine ⟨⟨rfl, ?_, ?_, ?_⟩, rfl, ?_⟩ <;> decide +kernel

end Deployment

end IncidentRelay
