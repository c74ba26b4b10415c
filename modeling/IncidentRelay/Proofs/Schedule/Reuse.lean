import IncidentRelay.Proofs.CallLog
import IncidentRelay.Proofs.Schedule.Failure
import IncidentRelay.Proofs.Schedule.Window

/-!
# Incidents that are started again

A check knows its incident by the identifier alone, and nothing ever disarms it. If an incident is
started again after it was acknowledged, the check of the earlier start is still there, and it takes
the record of the later start for its own. What holds of every page of a check, in every run and
over any store, is that it comes at the end of the window of the start that armed it, and that after
its last acknowledgment the incident was started again.

## Main statements

* `Drill.record_step_of_none`: a record that is gone comes back only with a start that opens a
  window.
* `Drill.opens_of_mem_armed`: every armed check was armed by a start that opened a window.
* `Drill.page_of_own_start`: when a check pages.
* `Drill.stale_check_pages`: a check pages in the window of a later start.
-/

namespace IncidentRelay

/-- A call that writes no record of an incident. -/
def Call.Spares {κ : Type} (incident : String) : Call κ → Prop
  | .put key _ _ => key ≠ incident
  | _ => True

/-- A call that pages, if at all, for an incident with these settings. -/
def Call.PagesOnly {κ : Type} (incident : String) (settings : Settings.OnCall) : Call κ → Prop
  | .page i s => i = incident ∧ s = settings
  | _ => True

/-- A store that says it removed a record no longer has it. -/
theorem DrillStore.get?_of_removed {key : String} {s : DrillStore}
    (h : (s.remove key).1 = .ok true) : (s.remove key).2.records.get? key = none := by
  revert h
  unfold remove
  split <;> simp [Memory.remove, Table.get?_erase]

namespace Drill

variable {incident : String} {settings : Settings.OnCall} {w : World Drill} {α : Type}

/-- A step that starts an incident and opens its window. -/
def Opens (w : World Drill) (s : Step) (incident : String) (settings : Settings.OnCall) : Prop :=
  s = .start incident settings ∧
    (step w s).1.outcome = .started (.ok (.pending settings.wait))

/-! ### Records -/

/-- A call that spares an incident writes no record for it. -/
theorem record_answer_of_none {c : Call Empty} (hc : c.Spares incident)
    (hr : (lane incident w).record = none) :
    (lane incident (World.answer services c w).2).record = none := by
  have hr : w.outside.store.records.get? incident = none := hr
  cases c with
  | put key marker ttl =>
      have hkey : key ≠ incident := hc
      simp only [World.answer, services, DrillStore.put]
      split <;> simp [lane, Memory.put_eq, Table.get?_insert, hkey, hr]
  | present key =>
      obtain ⟨_, rfl, hsame⟩ := World.answer_present services_inert key w
      rw [hsame]
      exact hr
  | remove key =>
      simp only [World.answer, services, DrillStore.remove]
      split <;> simp [lane, Memory.remove, Table.get?_erase, hr]
  | page i settings =>
      simp only [World.answer, services]
      split <;> exact hr
  | arm | count => exact hr
  | send channel i => exact channel.elim

/-- What writes no record of an incident does not bring it back. -/
theorem record_perform_of_none {p : Process Empty α} (h : p.Every (Call.Spares incident))
    (hr : (lane incident w).record = none) :
    (lane incident (w.perform services p).2).record = none :=
  World.perform_keeps (I := fun v => (lane incident v).record = none)
    (fun _ _ hc hv => record_answer_of_none hc hv) h hr

/-- A start that opens no window leaves no record behind. -/
theorem record_start_of_none
    (hout : (w.perform services (Escalation.start incident settings)).1 ≠
      .ok (.pending settings.wait))
    (hr : (lane incident w).record = none) :
    (lane incident (w.perform services (Escalation.start incident settings)).2).record = none := by
  by_cases hwait : settings.wait = 0
  · refine record_perform_of_none ?_ hr
    rw [Escalation.start_of_wait_zero hwait]
    refine (Escalation.page_every trivial fun _ => trivial).bind ?_
    intro r
    cases r <;> trivial
  · by_cases hover : maxWord < settings.wait + recordGrace
    · rw [Escalation.start_of_overflow hover]
      exact hr
    · unfold Escalation.start at hout ⊢
      simp only [if_neg hwait, if_neg hover] at hout ⊢
      rcases hput : World.answer services
        (.put incident pendingMarker (settings.wait + recordGrace)) w with ⟨r, w₁⟩
      rw [World.perform_call hput] at hout ⊢
      cases r with
      | ok u => exact absurd rfl hout
      | error e =>
          obtain rfl := answer_put_of_error hput
          exact hr

/-- A record that is gone comes back only with a start that opens a window. -/
theorem record_step_of_none {s : Step} (hs : ∀ settings, ¬ Opens w s incident settings)
    (hr : (lane incident w).record = none) : (lane incident (step w s).2).record = none := by
  have hfresh : (lane incident (fresh w)).record = none := hr
  cases s with
  | start i settings =>
      by_cases hi : i = incident
      · subst hi
        refine record_start_of_none (w := fresh w) ?_ hfresh
        intro hout
        exact hs settings ⟨rfl, congrArg Outcome.started hout⟩
      · exact (congrArg Lane.record (lane_start_of_ne hi settings (fresh w))).trans hfresh
  | acknowledge i =>
      exact record_perform_of_none (p := Escalation.acknowledge i)
        (Escalation.acknowledge_every trivial trivial fun _ => trivial) hfresh
  | advance seconds => exact (lane_advance_of_none hfresh seconds).1
  | setStore | setPager => exact hr

/-- A run that does not open the incident leaves it without a record. -/
theorem record_runFrom_of_none {steps : List Step}
    (hs : ∀ front s back settings, steps = front ++ s :: back →
      ¬ Opens (runFrom w front).2 s incident settings)
    (hr : (lane incident w).record = none) :
    (lane incident (runFrom w steps).2).record = none := by
  induction steps generalizing w with
  | nil => exact hr
  | cons s rest ih =>
      refine ih (w := (step w s).2) ?_ (record_step_of_none (fun _ => hs [] s rest _ rfl) hr)
      intro front s' back settings hrest
      exact hs (s :: front) s' back settings (congrArg (s :: ·) hrest)

/-- Once its record was removed, an incident has none. -/
theorem record_of_removed {w' : World Drill}
    (h : World.answer services (.remove incident) w = (.ok true, w')) :
    (lane incident w').record = none := by
  obtain ⟨hremoved, rfl⟩ := Prod.mk.inj h
  exact DrillStore.get?_of_removed hremoved

/-- An acknowledgment that succeeds removes the record, whatever the store was told. -/
theorem record_of_acknowledged
    (h : (step w (.acknowledge incident)).1.outcome = .acknowledged (.ok ())) :
    (lane incident (step w (.acknowledge incident)).2).record = none := by
  have h : ((fresh w).perform services (Escalation.acknowledge incident)).1 = .ok () :=
    Outcome.acknowledged.inj h
  change (lane incident ((fresh w).perform services (Escalation.acknowledge incident)).2).record =
    none
  unfold Escalation.acknowledge at h ⊢
  rcases hp : World.answer services (.present incident) (fresh w) with ⟨r, w₁⟩
  rw [World.perform_call hp] at h ⊢
  match r with
  | .error e => exact absurd h nofun
  | .ok false => exact absurd h nofun
  | .ok true =>
      rcases hm : World.answer services (.remove incident) w₁ with ⟨r, w₂⟩
      dsimp only at h ⊢
      rw [World.perform_call hm] at h ⊢
      match r with
      | .error e => exact absurd h nofun
      | .ok false => exact absurd h nofun
      | .ok true =>
          have hgone := record_of_removed hm
          exact hgone

/-! ### Armed checks -/

/-- A start arms a check if it opens a window, and none otherwise. -/
theorem mem_armed_start {a : Armed}
    (h : a ∈ (w.perform services (Escalation.start incident settings)).2.armed) :
    a ∈ w.armed ∨
      (w.perform services (Escalation.start incident settings)).1 = .ok (.pending settings.wait) ∧
        a = ⟨w.now + settings.wait, incident, settings⟩ := by
  by_cases hfits : settings.wait + recordGrace ≤ maxWord
  · have hbegun : Escalation.Begun incident settings
        ((Escalation.start incident settings).calls (World.answer services) w)
        (w.perform services (Escalation.start incident settings)).1 :=
      Escalation.start_calls (World.answer services) incident hfits w
    rw [World.armed_perform] at h
    generalize (w.perform services (Escalation.start incident settings)).1 = r at hbegun ⊢
    generalize (Escalation.start incident settings).calls (World.answer services) w = calls
      at h hbegun
    cases hbegun with
    | paged | pageFailed | unrecorded => exact .inl h
    | pending hwait => exact (Armed.mem_insertInto.mp h).symm.imp_right fun ha => ⟨rfl, ha⟩
  · rw [Escalation.start_of_overflow (Nat.lt_of_not_le hfits)] at h
    exact .inl h

/-- What arms a check is a start that opens a window, at the end of which the check is due. -/
theorem mem_armed_step {s : Step} {a : Armed} (h : a ∈ (step w s).2.armed) :
    a ∈ w.armed ∨ Opens w s a.incident a.settings ∧ a.due = w.now + a.settings.wait := by
  cases s with
  | start i settings =>
      refine (mem_armed_start (w := fresh w) h).imp_right ?_
      rintro ⟨hout, rfl⟩
      exact ⟨⟨rfl, congrArg Outcome.started hout⟩, rfl⟩
  | acknowledge i =>
      have harmed : (step w (.acknowledge i)).2.armed = w.armed :=
        World.armed_perform_of_none (p := Escalation.acknowledge i)
          (Escalation.acknowledge_every (fun _ => rfl) (fun _ => rfl) fun _ _ => rfl) (fresh w)
      exact .inl (harmed ▸ h)
  | advance seconds =>
      have harmed : (step w (.advance seconds)).2.armed =
          w.armed.dropWhile (·.due ≤ w.now + seconds) := World.armed_advance seconds (fresh w)
      rw [harmed] at h
      exact .inl ((List.dropWhile_suffix _).subset h)
  | setStore | setPager => exact .inl h

/-- Every armed check was armed by a start that opened a window. -/
theorem opens_of_mem_armed {steps : List Step} (hw : w.armed = []) {a : Armed}
    (h : a ∈ (runFrom w steps).2.armed) :
    ∃ front back, steps = front ++ .start a.incident a.settings :: back ∧
      Opens (runFrom w front).2 (.start a.incident a.settings) a.incident a.settings ∧
      a.due = (runFrom w front).2.now + a.settings.wait := by
  induction steps using List.reverseRecOn with
  | nil => simp [runFrom, hw] at h
  | append_singleton front s ih =>
      rw [runFrom_append] at h
      rcases mem_armed_step (w := (runFrom w front).2) h with hbefore | ⟨hopens, hdue⟩
      · obtain ⟨f, b, rfl, hopens, hdue⟩ := ih hbefore
        exact ⟨f, b ++ [s], by simp, hopens, hdue⟩
      · obtain rfl := hopens.1
        exact ⟨front, [], rfl, hopens, hdue⟩

/-! ### Pages -/

/-- A call that pages for one start only makes no other pages. -/
theorem mem_pages_answer {c : Call Empty} (hc : c.PagesOnly incident settings) {page : Page}
    (h : page ∈ (World.answer services c w).2.outside.pages) :
    page ∈ w.outside.pages ∨ page = ⟨w.now, incident, settings⟩ := by
  cases c with
  | page i s =>
      obtain ⟨rfl, rfl⟩ := hc
      have hpages : (World.answer services (.page i s) w).2.outside.pages =
          ⟨w.now, i, s⟩ :: w.outside.pages := by
        simp only [World.answer, services]
        split <;> rfl
      rw [hpages] at h
      exact (List.mem_cons.mp h).symm
  | put | present | remove | arm | count => exact .inl h
  | send channel i => exact channel.elim

/-- A process that pages for one start only makes no other pages. -/
theorem mem_pages_perform {p : Process Empty α} (h : p.Every (Call.PagesOnly incident settings))
    {page : Page} (hpage : page ∈ (w.perform services p).2.outside.pages) :
    page ∈ w.outside.pages ∨ page = ⟨w.now, incident, settings⟩ := by
  unfold World.perform at hpage
  induction p generalizing w with
  | done a => exact .inl hpage
  | call c next ih =>
      have hrest := ih (World.answer services c w).1 (w := (World.answer services c w).2)
        (h.2 _) hpage
      rw [World.now_answer] at hrest
      exact hrest.elim (mem_pages_answer h.1) .inr

/-- The pages of checks come at their instants. -/
theorem mem_pages_foldl {l : List Armed} {page : Page}
    (h : page ∈ (l.foldl (World.runCheck services) w).outside.pages) :
    page ∈ w.outside.pages ∨ ∃ a ∈ l, page = ⟨a.due, a.incident, a.settings⟩ := by
  induction l generalizing w with
  | nil => exact .inl h
  | cons a rest ih =>
      rcases ih h with hbefore | ⟨b, hb, hpage⟩
      · refine (mem_pages_perform (w := { w with now := a.due })
          (p := Escalation.check a.incident a.settings) ?_ hbefore).imp_right
            fun hpage => ⟨a, List.mem_cons_self, hpage⟩
        exact Escalation.check_every trivial trivial ⟨rfl, rfl⟩ fun _ => trivial
      · exact .inr ⟨b, List.mem_cons_of_mem a hb, hpage⟩

/-- While time passes, the pages are those of armed checks, each at its instant. -/
theorem exists_armed_of_mem_pages {seconds : Nat} {page : Page}
    (h : page ∈ (step w (.advance seconds)).1.pages) :
    ∃ a ∈ w.armed, page = ⟨a.due, a.incident, a.settings⟩ := by
  rcases mem_pages_foldl ((pages_step_perm w _).mem_iff.mp h) with hbefore | ⟨a, ha, hpage⟩
  · exact absurd hbefore List.not_mem_nil
  · exact ⟨a, (List.takeWhile_prefix _).subset ha, hpage⟩

/-- A check pages only for an incident with a record. -/
theorem record_ne_none_of_mem_pages {seconds instant : Nat}
    (h : ⟨instant, incident, settings⟩ ∈ (step w (.advance seconds)).1.pages) :
    (lane incident w).record ≠ none := by
  intro hr
  have hnone : (lane incident (step w (.advance seconds)).2).pages = [] :=
    (lane_advance_of_none (w := fresh w) hr seconds).2.1
  have hpages := pagesOf_step_of_lane hnone (Nat.zero_le 1)
  have hmem : ⟨instant, incident, settings⟩ ∈ pagesOf incident [(step w (.advance seconds)).1] := by
    simp [pagesOf, h]
  rw [hpages] at hmem
  exact absurd hmem List.not_mem_nil

/-- After an acknowledgment that succeeded, a check pages only if the incident is started again. -/
theorem opens_of_acknowledged {back : List Step} {seconds instant : Nat}
    (hack : (step w (.acknowledge incident)).1.outcome = .acknowledged (.ok ()))
    (h : ⟨instant, incident, settings⟩ ∈
      (step (runFrom w (.acknowledge incident :: back)).2 (.advance seconds)).1.pages) :
    ∃ mid rest later, back = mid ++ .start incident later :: rest ∧
      Opens (runFrom w (.acknowledge incident :: mid)).2 (.start incident later) incident
        later := by
  by_contra hnone
  -- Without another start the record stays gone, and a check that finds none makes no page.
  refine record_ne_none_of_mem_pages h ?_
  refine record_runFrom_of_none (w := (step w (.acknowledge incident)).2) ?_
    (record_of_acknowledged hack)
  rintro mid s rest later rfl hopens
  obtain rfl := hopens.1
  exact hnone ⟨mid, rest, later, rfl, hopens⟩

/-- A check pages for its own start. In every run, whatever the store and the pager are told, a page
of a check comes with the settings of a start that opened a window, and at the end of that window.
If the incident was acknowledged before the page, it was started again after that, with a window.
So if nothing opened a window for the incident after the start of the check, no acknowledgment
succeeded after it. -/
theorem page_of_own_start (d : Drill) (steps : List Step) (seconds : Nat) {instant : Nat}
    (h : ⟨instant, incident, settings⟩ ∈
      (step (runFrom { outside := d } steps).2 (.advance seconds)).1.pages) :
    let before (front : List Step) : World Drill := (runFrom { outside := d } front).2
    let acknowledged (front : List Step) : Prop :=
      (step (before front) (.acknowledge incident)).1.outcome = .acknowledged (.ok ())
    let opened (front : List Step) (settings : Settings.OnCall) : Prop :=
      (step (before front) (.start incident settings)).1.outcome =
        .started (.ok (.pending settings.wait))
    (∃ front back, steps = front ++ .start incident settings :: back ∧
      opened front settings ∧ instant = (before front).now + settings.wait ∧
      ((∀ mid rest later, back = mid ++ .start incident later :: rest →
          ¬ opened (front ++ .start incident settings :: mid) later) →
        ∀ mid rest, back = mid ++ .acknowledge incident :: rest →
          ¬ acknowledged (front ++ .start incident settings :: mid))) ∧
    ∀ front back, steps = front ++ .acknowledge incident :: back → acknowledged front →
      ∃ mid rest later, back = mid ++ .start incident later :: rest ∧
        opened (front ++ .acknowledge incident :: mid) later := by
  intro before acknowledged opened
  have hagain (front back : List Step) (hsteps : steps = front ++ .acknowledge incident :: back)
      (hack : acknowledged front) :
      ∃ mid rest later, back = mid ++ .start incident later :: rest ∧
        opened (front ++ .acknowledge incident :: mid) later := by
    rw [hsteps, runFrom_append] at h
    obtain ⟨mid, rest, later, hback, -, hopens⟩ := opens_of_acknowledged hack h
    refine ⟨mid, rest, later, hback, ?_⟩
    simp only [opened, before, runFrom_append]
    exact hopens
  refine ⟨?_, hagain⟩
  obtain ⟨a, ha, hpage⟩ := exists_armed_of_mem_pages h
  obtain ⟨rfl, rfl, rfl⟩ := Page.mk.inj hpage
  obtain ⟨front, back, hsteps, ⟨-, hopened⟩, hdue⟩ :=
    opens_of_mem_armed (w := { outside := d }) rfl ha
  refine ⟨front, back, hsteps, hopened, hdue, ?_⟩
  intro honce mid rest hback hack
  -- What was acknowledged was started again, and that start would be behind the check's own.
  obtain ⟨mid', rest', later, hrest, hopens⟩ :=
    hagain (front ++ .start a.incident a.settings :: mid) rest (by simp [hsteps, hback]) hack
  refine honce (mid ++ .acknowledge a.incident :: mid') rest' later (by simp [hback, hrest]) ?_
  simpa using hopens

/-- The check of an acknowledged start pages, since the incident was started again. -/
theorem page_of_own_start_again :
    let short : Settings.OnCall := { waitMinutes := 1 }
    let long : Settings.OnCall := { waitMinutes := 2 }
    ∃ mid rest later, [Step.start "x" long] = mid ++ .start "x" later :: rest ∧
      (step (runFrom { outside := {} } ([.start "x" short] ++ .acknowledge "x" :: mid)).2
        (.start "x" later)).1.outcome = .started (.ok (.pending later.wait)) := by
  intro short long
  have hpage : (⟨60, "x", short⟩ : Page) ∈ (step (runFrom { outside := {} }
      [.start "x" short, .acknowledge "x", .start "x" long]).2 (.advance 61)).1.pages := by
    decide +kernel
  exact (page_of_own_start {} [.start "x" short, .acknowledge "x", .start "x" long] 61 hpage).2
    [.start "x" short] [.start "x" long] rfl rfl

/-- A check can page in the window of a later start: an incident with a window of a minute is
acknowledged and started again with a window of two, and the first check pages after one minute. -/
theorem stale_check_pages :
    let short : Settings.OnCall := { waitMinutes := 1 }
    let long : Settings.OnCall := { waitMinutes := 2 }
    let after (steps : List Step) : World Drill := (runFrom { outside := {} } steps).2
    (step (after [.start "x" short, .acknowledge "x", .start "x" long]) (.advance 61)).1.pages =
        [⟨60, "x", short⟩] ∧
      (step (after [.start "x" short]) (.acknowledge "x")).1.outcome = .acknowledged (.ok ()) ∧
      60 < (after [.start "x" short, .acknowledge "x"]).now + long.wait := by
  refine ⟨?_, rfl, ?_⟩ <;> decide +kernel

end Drill

end IncidentRelay
