import IncidentRelay.Proofs.Schedule.Lane
import IncidentRelay.Proofs.Schedule.Run
import Mathlib.Data.List.Induction

/-!
# Acknowledged or paged

From its start to the end of its window an incident waits. It leaves the window in one of two ways,
by an acknowledgment or by its check, and then it is settled and nothing brings it back.

## Main statements

* `Drill.Waiting.step`, `Drill.Settled.step`: what a step does to an incident that waits, and to one
  that is settled.
* `Drill.Waiting.fate`: in every run the incident still waits, was acknowledged in time, or was
  paged for at its deadline.
* `Drill.acknowledged_or_paged`: the two exclude each other, and the page is on time.
-/

namespace IncidentRelay

namespace Drill

variable {incident : String} {w : World Drill}

/-- A steady world is steady when what was reported is put aside. -/
theorem Steady.fresh (h : Steady w) : Steady (fresh w) := ⟨h.healthy, h.expiring, h.sorted⟩

/-- The pages for an incident in the reports of a run, in order. -/
def pagesOf (incident : String) (reports : List Report) : List Page :=
  (reports.flatMap (·.pages)).filter (·.incident = incident)

theorem pagesOf_append (incident : String) (front back : List Report) :
    pagesOf incident (front ++ back) = pagesOf incident front ++ pagesOf incident back := by
  simp [pagesOf]

/-- The pages of a report are those of the lanes. -/
theorem pagesOf_step (incident : String) (w : World Drill) (s : Step) :
    (pagesOf incident [(step w s).1]).Perm (lane incident (step w s).2).pages := by
  have hone : pagesOf incident [(step w s).1] =
      (step w s).1.pages.filter (·.incident = incident) := by simp [pagesOf]
  rw [hone]
  exact (pages_step_perm w s).filter _

/-! ### The phases of an incident -/

/-- The incident is over: its record is gone. -/
structure Settled (incident : String) (w : World Drill) : Prop where
  steady : Steady w
  record : (lane incident w).record = none

/-- The incident waits for its acknowledgment. -/
structure Waiting (incident : String) (settings : Settings.OnCall) (due : Nat) (w : World Drill) :
    Prop where
  steady : Steady w
  clock : w.now < due
  record : (lane incident w).record = some ⟨pendingMarker, some ((due + recordGrace) * 1000)⟩
  armed : (lane incident w).armed = [⟨due, incident, settings⟩]

/-- A step that keeps the store working and does not start the incident. -/
def Step.Tame (incident : String) (s : Step) : Prop :=
  (∀ mode, s ≠ .setStore mode) ∧ ∀ settings, s ≠ .start incident settings

/-- A tame step leaves a steady world steady. -/
theorem Steady.step (h : Steady w) {s : Step} (hs : s.Tame incident) :
    Steady (step w s).2 := by
  have hf := h.fresh
  cases s with
  | start i settings => exact hf.perform (Escalation.start i settings)
  | acknowledge i => exact hf.perform (Escalation.acknowledge i)
  | advance seconds => exact hf.advance seconds
  | setStore mode => exact absurd rfl (hs.1 mode)
  | setPager failure => exact ⟨hf.healthy, hf.expiring, hf.sorted⟩

/-- What is not about the incident and takes no time leaves its lane alone. -/
theorem lane_step_elsewhere {s : Step} (hs : s.Tame incident) (hack : s ≠ .acknowledge incident)
    (hadvance : ∀ seconds, s ≠ .advance seconds) (w : World Drill) :
    lane incident (step w s).2 = { lane incident w with pages := [] } ∧
      (step w s).2.now = w.now := by
  cases s with
  | start i settings =>
      have hi : i ≠ incident := by
        rintro rfl
        exact hs.2 settings rfl
      exact ⟨lane_start_of_ne hi settings (fresh w),
        World.now_perform services (Escalation.start i settings) (fresh w)⟩
  | acknowledge i =>
      have hi : i ≠ incident := by
        rintro rfl
        exact hack rfl
      exact ⟨lane_acknowledge_of_ne hi (fresh w),
        World.now_perform services (Escalation.acknowledge i) (fresh w)⟩
  | advance seconds => exact absurd rfl (hadvance seconds)
  | setStore mode => exact absurd rfl (hs.1 mode)
  | setPager failure => exact ⟨rfl, rfl⟩

/-- A step that leaves one page in the lane has made it. -/
theorem pagesOf_step_of_lane {s : Step} {pages : List Page}
    (h : (lane incident (step w s).2).pages = pages) (hle : pages.length ≤ 1) :
    pagesOf incident [(step w s).1] = pages := by
  have hperm := pagesOf_step incident w s
  rw [h] at hperm
  match pages with
  | [] => exact hperm.eq_nil
  | [page] => exact List.perm_singleton.mp hperm
  | _ :: _ :: _ => simp at hle

/-- Once an incident is over it stays so: nobody is paged, and every acknowledgment is refused. -/
theorem Settled.step (h : Settled incident w) {s : Step} (hs : s.Tame incident) :
    Settled incident (step w s).2 ∧ pagesOf incident [(step w s).1] = [] ∧
      (lane incident (step w s).2).armed.Sublist (lane incident w).armed := by
  suffices hlane : (lane incident (Drill.step w s).2).record = none ∧
      (lane incident (Drill.step w s).2).pages = [] ∧
        (lane incident (Drill.step w s).2).armed.Sublist (lane incident w).armed from
    ⟨⟨h.steady.step hs, hlane.1⟩, pagesOf_step_of_lane hlane.2.1 (Nat.zero_le 1), hlane.2.2⟩
  have of_same (hlane : lane incident (Drill.step w s).2 = { lane incident w with pages := [] }) :
      (lane incident (Drill.step w s).2).record = none ∧
        (lane incident (Drill.step w s).2).pages = [] ∧
          (lane incident (Drill.step w s).2).armed.Sublist (lane incident w).armed := by
    rw [hlane]
    exact ⟨h.record, rfl, List.Sublist.refl _⟩
  by_cases hack : s = .acknowledge incident
  · subst hack
    exact of_same (lane_acknowledge_of_none h.steady.fresh h.record).2
  · by_cases hadvance : ∃ seconds, s = .advance seconds
    · obtain ⟨seconds, rfl⟩ := hadvance
      exact lane_advance_of_none (w := Drill.fresh w) h.record seconds
    · exact of_same
        (lane_step_elsewhere hs hack (fun seconds hs => hadvance ⟨seconds, hs⟩) w).1

/-- Once an incident is settled it cannot be acknowledged. -/
theorem Settled.outcome (h : Settled incident w) :
    (Drill.step w (.acknowledge incident)).1.outcome =
      .acknowledged (.error (.notFound incident)) :=
  congrArg Outcome.acknowledged (lane_acknowledge_of_none h.steady.fresh h.record).1

/-- Once an incident is settled it stays so, and nobody is paged. -/
theorem Settled.run (h : Settled incident w) (steps : List Step)
    (hs : ∀ s ∈ steps, s.Tame incident) :
    Settled incident (runFrom w steps).2 ∧ pagesOf incident (runFrom w steps).1 = [] ∧
      (lane incident (runFrom w steps).2).armed.Sublist (lane incident w).armed := by
  induction steps generalizing w with
  | nil => exact ⟨h, rfl, List.Sublist.refl _⟩
  | cons s rest ih =>
      obtain ⟨hsettled, hpages, harmed⟩ := h.step (hs s List.mem_cons_self)
      obtain ⟨hend, hrest, hsub⟩ := ih hsettled fun s' h' => hs s' (List.mem_cons_of_mem s h')
      refine ⟨hend, ?_, hsub.trans harmed⟩
      rw [runFrom_cons, ← List.singleton_append, pagesOf_append, hpages, hrest]
      rfl

/-- Starting with a window opens it. -/
theorem Settled.start (h : Settled incident w) (harmed : (lane incident w).armed = [])
    {settings : Settings.OnCall} (hwait : settings.wait ≠ 0)
    (hle : settings.wait + recordGrace ≤ maxWord) :
    let started := Drill.step w (.start incident settings)
    started.1.outcome = .started (.ok (.pending settings.wait)) ∧
      started.1.written = [⟨incident, pendingMarker, settings.wait + recordGrace⟩] ∧
      pagesOf incident [started.1] = [] ∧
      Waiting incident settings (w.now + settings.wait) started.2 := by
  obtain ⟨hout, hlane, hwritten⟩ :=
    lane_start h.steady.fresh hwait hle
      (show (lane incident (Drill.fresh w)).armed = [] from harmed)
  have hnow : (Drill.step w (.start incident settings)).2.now = w.now :=
    World.now_perform services (Escalation.start incident settings) (Drill.fresh w)
  refine ⟨congrArg Outcome.started hout, congrArg List.reverse hwritten, ?_, ?_, ?_, ?_, ?_⟩
  · exact pagesOf_step_of_lane (congrArg Lane.pages hlane) (Nat.zero_le 1)
  · exact h.steady.fresh.perform (Escalation.start incident settings)
  · omega
  · refine (congrArg Lane.record hlane).trans ?_
    simp [Drill.fresh, Nat.add_mul, Nat.add_assoc]
  · exact congrArg Lane.armed hlane

/-- An acknowledgment in the window succeeds. -/
theorem Waiting.acknowledge {settings : Settings.OnCall} {due : Nat}
    (h : Waiting incident settings due w) :
    let step := Drill.step w (.acknowledge incident)
    step.1.outcome = .acknowledged (.ok ()) ∧ pagesOf incident [step.1] = [] ∧
      Settled incident step.2 := by
  have hlive : (Drill.fresh w).now * 1000 < (due + recordGrace) * 1000 := by
    have hclock := h.clock
    simp only [Drill.fresh]
    omega
  obtain ⟨hout, hlane⟩ := lane_acknowledge_of_live h.steady.fresh h.record (decide_eq_true hlive)
  refine ⟨congrArg Outcome.acknowledged hout, ?_,
    h.steady.fresh.perform (Escalation.acknowledge incident), ?_⟩
  · exact pagesOf_step_of_lane (congrArg Lane.pages hlane) (Nat.zero_le 1)
  · exact congrArg Lane.record hlane

/-- What does not acknowledge the incident leaves its window open, until the check pages. -/
theorem Waiting.step {settings : Settings.OnCall} {due : Nat}
    (h : Waiting incident settings due w) {s : Step} (hs : s.Tame incident)
    (hack : s ≠ .acknowledge incident) :
    Waiting incident settings due (step w s).2 ∧ pagesOf incident [(step w s).1] = [] ∨
      due ≤ (step w s).2.now ∧ Settled incident (step w s).2 ∧
        pagesOf incident [(step w s).1] = [⟨due, incident, settings⟩] := by
  have hsteady := h.steady.step hs
  by_cases hadvance : ∃ seconds, s = .advance seconds
  · obtain ⟨seconds, rfl⟩ := hadvance
    have hnow : (Drill.step w (.advance seconds)).2.now = w.now + seconds := rfl
    by_cases hdue : due ≤ w.now + seconds
    · have hlive : due * 1000 < (due + recordGrace) * 1000 := by
        simp only [recordGrace]
        omega
      have hlane := lane_advance_of_due h.steady.fresh h.armed hdue h.record (decide_eq_true hlive)
      refine .inr ⟨hdue, ⟨hsteady, congrArg Lane.record hlane⟩, ?_⟩
      exact pagesOf_step_of_lane (congrArg Lane.pages hlane) (Nat.le_refl 1)
    · have harmed : (lane incident (Drill.fresh w)).armed = [⟨due, incident, settings⟩] := h.armed
      have hlane := lane_advance_of_later harmed (Nat.lt_of_not_le hdue)
      refine .inl ⟨⟨hsteady, Nat.lt_of_not_le hdue, ?_, ?_⟩, ?_⟩
      · exact (congrArg Lane.record hlane).trans h.record
      · exact (congrArg Lane.armed hlane).trans h.armed
      · exact pagesOf_step_of_lane (congrArg Lane.pages hlane) (Nat.zero_le 1)
  · obtain ⟨hlane, hnow⟩ :=
      lane_step_elsewhere hs hack (fun seconds hs => hadvance ⟨seconds, hs⟩) w
    refine .inl ⟨⟨hsteady, hnow ▸ h.clock, ?_, ?_⟩, ?_⟩
    · exact (congrArg Lane.record hlane).trans h.record
    · exact (congrArg Lane.armed hlane).trans h.armed
    · exact pagesOf_step_of_lane (congrArg Lane.pages hlane) (Nat.zero_le 1)

/-- What has become of an incident after some steps. -/
inductive Fate (incident : String) (settings : Settings.OnCall) (due : Nat) (w : World Drill)
    (steps : List Step) : Prop
  | waiting (h : Waiting incident settings due (runFrom w steps).2)
      (hsteps : .acknowledge incident ∉ steps)
      (hpages : pagesOf incident (runFrom w steps).1 = [])
  | acknowledged (h : Settled incident (runFrom w steps).2) (front back : List Step)
      (hsteps : steps = front ++ .acknowledge incident :: back)
      (hclock : (runFrom w front).2.now < due)
      (hpages : pagesOf incident (runFrom w steps).1 = [])
  | paged (h : Settled incident (runFrom w steps).2) (hdue : due ≤ (runFrom w steps).2.now)
      (hsteps : ∀ front back, steps = front ++ .acknowledge incident :: back →
        due ≤ (runFrom w front).2.now)
      (hpages : pagesOf incident (runFrom w steps).1 = [⟨due, incident, settings⟩])

/-- Every incident that waits is acknowledged, or paged when its check is due. -/
theorem Waiting.fate {settings : Settings.OnCall} {due : Nat}
    (h : Waiting incident settings due w) (steps : List Step)
    (hs : ∀ s ∈ steps, s.Tame incident) : Fate incident settings due w steps := by
  induction steps using List.reverseRecOn with
  | nil => exact .waiting h nofun rfl
  | append_singleton front s ih =>
      have hlast := hs s (by simp)
      have hrun : runFrom w (front ++ [s]) =
          ((runFrom w front).1 ++ [(Drill.step (runFrom w front).2 s).1],
            (Drill.step (runFrom w front).2 s).2) := runFrom_append w front [s]
      cases ih fun s' h' => hs s' (by simp [h']) with
      | waiting hw hsteps hpages =>
          by_cases hack : s = .acknowledge incident
          · subst hack
            obtain ⟨-, hnone, hsettled⟩ := hw.acknowledge
            refine .acknowledged ?_ front [] rfl hw.clock ?_
            · rwa [hrun]
            · rw [hrun, pagesOf_append, hpages, hnone]
              rfl
          · have hnotin : .acknowledge incident ∉ front ++ [s] := by
              simp only [List.mem_append, List.mem_singleton, not_or]
              exact ⟨hsteps, fun heq => hack heq.symm⟩
            rcases hw.step hlast hack with ⟨hopen, hnone⟩ | ⟨hdue, hsettled, hpage⟩
            · refine .waiting ?_ hnotin ?_
              · rwa [hrun]
              · rw [hrun, pagesOf_append, hpages, hnone]
                rfl
            · refine .paged ?_ ?_ ?_ ?_
              · rwa [hrun]
              · rwa [hrun]
              · intro f b heq
                exact absurd (by simp [heq]) hnotin
              · rw [hrun, pagesOf_append, hpages, hpage]
                rfl
      | acknowledged hw f b hsteps hclock hpages =>
          obtain ⟨hsettled, hnone, -⟩ := hw.step hlast
          refine .acknowledged ?_ f (b ++ [s]) (by simp [hsteps]) hclock ?_
          · rwa [hrun]
          · rw [hrun, pagesOf_append, hpages, hnone]
            rfl
      | paged hw hdue hsteps hpages =>
          obtain ⟨hsettled, hnone, -⟩ := hw.step hlast
          have hnow := now_le_step (runFrom w front).2 s
          refine .paged ?_ ?_ ?_ ?_
          · rwa [hrun]
          · rw [hrun]
            exact Nat.le_trans hdue hnow
          · intro f b heq
            rcases List.eq_nil_or_concat b with rfl | ⟨rest, last, rfl⟩
            · obtain ⟨rfl, -⟩ := List.append_inj' heq rfl
              exact hdue
            · refine hsteps f rest ?_
              rw [List.concat_eq_append, ← List.cons_append, ← List.append_assoc] at heq
              exact (List.append_inj' heq rfl).1
          · rw [hrun, pagesOf_append, hpages, hnone]
            rfl

/-- Acknowledged or paged, one of the two, and on time. An incident is started once, with a window,
on a clock over a store that works and lets records run out; other incidents come and go, and the
pager may fail at any time. Then nobody is paged before the deadline. If the incident is
acknowledged before it, the first acknowledgment succeeds and nobody is paged at all. Otherwise the
record lives on to the deadline, and there is one page, at the deadline and with the settings of the
start. After either of these the record is gone for good, and every acknowledgment is refused. -/
theorem acknowledged_or_paged {incident : String} {settings : Settings.OnCall}
    (pre post : List Step) (hhealthy : ∀ s ∈ pre ++ post, ∀ mode, s ≠ .setStore mode)
    (honce : ∀ s ∈ pre ++ post, ∀ other, s ≠ .start incident other)
    (hwait : settings.wait ≠ 0) (hfits : settings.wait + recordGrace ≤ maxWord) :
    let before := runFrom { outside := { store := { expiring := true } } } pre
    let started := step before.2 (.start incident settings)
    let after (steps : List Step) := (runFrom started.2 steps).2
    let due := before.2.now + settings.wait
    let pages := pagesOf incident (before.1 ++ started.1 :: (runFrom started.2 post).1)
    (started.1.outcome = .started (.ok (.pending settings.wait)) ∧
        started.1.written = [⟨incident, pendingMarker, settings.wait + recordGrace⟩]) ∧
      (∀ page ∈ pages, due ≤ page.at_) ∧
      (∀ front back, post = front ++ .acknowledge incident :: back → (after front).now < due →
        pages = [] ∧ (.acknowledge incident ∉ front →
          (step (after front) (.acknowledge incident)).1.outcome = .acknowledged (.ok ()))) ∧
      ((∀ front back, post = front ++ .acknowledge incident :: back → due ≤ (after front).now) →
        (∀ front back, post = front ++ back → (after front).now < due →
          (after front).outside.store.records.get? incident =
            some ⟨pendingMarker, some ((due + recordGrace) * 1000)⟩) ∧
        (due ≤ (after post).now → pages = [⟨due, incident, settings⟩])) ∧
      ∀ front back, post = front ++ back →
        .acknowledge incident ∈ front ∨ due ≤ (after front).now →
          (after front).outside.store.records.get? incident = none ∧
            (step (after front) (.acknowledge incident)).1.outcome =
              .acknowledged (.error (.notFound incident)) := by
  intro before started after due pages
  have htame : ∀ s ∈ pre ++ post, s.Tame incident := fun s hs => ⟨hhealthy s hs, honce s hs⟩
  have hpost : ∀ s ∈ post, s.Tame incident := fun s hs => htame s (by simp [hs])
  have hempty : Settled incident { outside := { store := { expiring := true } } } :=
    ⟨⟨rfl, rfl, List.Pairwise.nil⟩, rfl⟩
  obtain ⟨hsettled, hquiet, harmed⟩ := hempty.run pre fun s hs => htame s (by simp [hs])
  obtain ⟨hout, hwritten, hnone, hwaiting⟩ :=
    hsettled.start (List.sublist_nil.mp harmed) hwait hfits
  have hpages : pages = pagesOf incident (runFrom started.2 post).1 := by
    simp only [pages]
    rw [← List.singleton_append, pagesOf_append, pagesOf_append, hquiet, hnone]
    rfl
  have hfate (front back : List Step) (hfront : post = front ++ back) :
      Fate incident settings due started.2 front :=
    hwaiting.fate front fun s hs => hpost s (by simp [hfront, hs])
  have hend := hfate post [] (List.append_nil post).symm
  refine ⟨⟨hout, hwritten⟩, ?_, ?_, ?_, ?_⟩
  · intro page hpage
    rw [hpages] at hpage
    cases hend with
    | waiting _ _ hp => simp [hp] at hpage
    | acknowledged _ _ _ _ _ hp => simp [hp] at hpage
    | paged _ _ _ hp =>
        obtain rfl : page = ⟨due, incident, settings⟩ := by simpa [hp] using hpage
        exact Nat.le_refl _
  · intro front back hsteps hclock
    refine ⟨?_, ?_⟩
    · rw [hpages]
      cases hend with
      | waiting _ _ hp => exact hp
      | acknowledged _ _ _ _ _ hp => exact hp
      | paged _ _ hlate _ =>
          exact absurd (hlate front back hsteps) (Nat.not_le_of_lt hclock)
    · intro hfirst
      cases hfate front _ hsteps with
      | waiting h _ _ => exact h.acknowledge.1
      | acknowledged _ _ _ hsome _ _ => exact absurd (by simp [hsome]) hfirst
      | paged _ hdue _ _ => exact absurd hdue (Nat.not_le_of_lt hclock)
  · intro hlate
    refine ⟨?_, ?_⟩
    · intro front back hsteps hclock
      cases hfate front back hsteps with
      | waiting h _ _ => exact h.record
      | acknowledged _ f b hsome hbefore _ =>
          exact absurd (hlate f (b ++ back) (by simp [hsteps, hsome]))
            (Nat.not_le_of_lt hbefore)
      | paged _ hdue _ _ => exact absurd hdue (Nat.not_le_of_lt hclock)
    · intro hdue
      rw [hpages]
      cases hend with
      | waiting h _ _ => exact absurd hdue (Nat.not_le_of_lt h.clock)
      | acknowledged _ f b hsome hbefore _ =>
          exact absurd (hlate f b hsome) (Nat.not_le_of_lt hbefore)
      | paged _ _ _ hp => exact hp
  · intro front back hsteps hover
    cases hfate front back hsteps with
    | waiting h hnotin _ =>
        rcases hover with hin | hdue
        · exact absurd hin hnotin
        · exact absurd hdue (Nat.not_le_of_lt h.clock)
    | acknowledged h _ _ _ _ _ => exact ⟨h.record, h.outcome⟩
    | paged h _ _ _ => exact ⟨h.record, h.outcome⟩

/-- One minute for an incident that nobody acknowledges, while another one is refused. -/
theorem acknowledged_or_paged_minute :
    let started := step { outside := { store := { expiring := true } } }
      (.start "x" { waitMinutes := 1 })
    pagesOf "x" (started.1 :: (runFrom started.2 [.acknowledge "y", .advance 60]).1) =
      [⟨60, "x", { waitMinutes := 1 }⟩] := by
  have hnone (front back : List Step) : [Step.acknowledge "y", .advance 60] ≠
      front ++ .acknowledge "x" :: back := by
    intro h
    have hmem : Step.acknowledge "x" ∈ [Step.acknowledge "y", .advance 60] := by simp [h]
    simp at hmem
  exact ((acknowledged_or_paged [] [.acknowledge "y", .advance 60] (by simp) (by simp) (by decide)
    (by decide)).2.2.2.1 fun front back h => absurd h (hnone front back)).2 (by decide)

/-- The window opens with the start itself: an acknowledgment at the same instant succeeds, and then
nobody is paged although nobody acknowledges later. A window that does not fit is refused, and there
is nothing to acknowledge. -/
theorem acknowledged_at_once :
    let w : World Drill := { outside := { store := { expiring := true } } }
    let short : Settings.OnCall := { waitMinutes := 1 }
    let long : Settings.OnCall := { waitMinutes := 307445734561825860 }
    ((step (runFrom w [.start "x" short]).2 (.acknowledge "x")).1.outcome =
          .acknowledged (.ok ()) ∧
        pagesOf "x" (runFrom w [.start "x" short, .acknowledge "x", .advance 61]).1 = []) ∧
      (runFrom w [.start "x" long, .advance 1]).2.now < long.wait ∧
        (step (runFrom w [.start "x" long, .advance 1]).2 (.acknowledge "x")).1.outcome =
          .acknowledged (.error (.notFound "x")) := by
  refine ⟨⟨rfl, ?_⟩, by decide, rfl⟩
  decide +kernel

end Drill

end IncidentRelay
