import IncidentRelay.Proofs.Paging.Pages

/-!
# Incidents that nobody acknowledges

An alert that succeeds and has to be acknowledged leaves its incident pending, unless it pages at
once. Over a store whose records last, a pending incident stays pending as long as nobody
acknowledges it, and when the clock reaches the end of its window its check pages.

## Main statements

* `Service.pagesOf_alert_ne_nil`: without a window an alert pages.
* `Service.pending_alert`: with a window an alert that succeeds leaves its incident pending.
* `Service.pending_step`: what is pending stays so until its check pages.
* `Service.pages_of_pending`: what nobody acknowledges is paged for.
-/

namespace IncidentRelay

variable {κ ω : Type}

/-! ### Pending incidents -/

namespace Backing

variable {services : Services κ ω} {B : Backing services} {a : Armed} {w : World ω}

/-- Records last: what was written is there for as long as it was written for. -/
def Lasts (B : Backing services) : Prop :=
  ∀ now key marker ttl o, B.sound o → (services.put now key marker ttl o).1 = .ok () →
    ∀ t, now ≤ t → t < now + ttl → B.live t key (services.put now key marker ttl o).2 = true

/-- An incident waits for its check, which will find its record. -/
structure Pending (B : Backing services) (a : Armed) (w : World ω) : Prop where
  sound : B.sound w.outside
  sorted : Armed.Sorted w.armed
  checks : w.checksOf a.incident = [a]
  live : B.live a.due a.incident w.outside = true
  early : w.now < a.due

/-- What avoids an incident leaves it pending. -/
theorem Pending.perform {α : Type} (h : B.Pending a w) {p : Process κ α}
    (hp : p.Every (Call.Avoids a.incident)) : B.Pending a (w.perform services p).2 where
  sound := B.sound_perform h.sound p
  sorted := World.sorted_perform h.sorted p
  checks := by
    refine (World.checksOf_perform (hp.mono ?_) services w).trans h.checks
    intro c hc
    cases c with
    | page | arm => exact hc
    | put | present | remove | send | count => trivial
  live := (B.live_perform h.sound hp a.due).trans h.live
  early := by
    rw [World.now_perform]
    exact h.early

/-- A store goes on working while checks run. -/
theorem sound_runChecks (h : B.sound w.outside) (l : List Armed) :
    B.sound (l.foldl (World.runCheck services) w).outside := by
  induction l generalizing w with
  | nil => exact h
  | cons b rest ih =>
      exact ih (B.sound_perform (w := { w with now := b.due }) h
        (Escalation.check b.incident b.settings))

/-- The checks of other incidents leave a record alone. -/
theorem live_runChecks (h : B.sound w.outside) {incident : String} {l : List Armed}
    (hl : ∀ b ∈ l, b.incident ≠ incident) (t : Nat) :
    B.live t incident (l.foldl (World.runCheck services) w).outside =
      B.live t incident w.outside := by
  induction l generalizing w with
  | nil => rfl
  | cons b rest ih =>
      obtain ⟨hb, hrest⟩ := List.forall_mem_cons.mp hl
      let due : World ω := { w with now := b.due }
      have hcheck : (Escalation.check (κ := κ) b.incident b.settings).Every
          (Call.Avoids incident) :=
        Escalation.check_every trivial hb hb fun _ => trivial
      have hsound := B.sound_perform (w := due) h (Escalation.check b.incident b.settings)
      exact (ih hsound hrest).trans (B.live_perform (w := due) h hcheck t)

/-- A check that finds the record pages. -/
theorem check_pages_of_live (h : B.sound w.outside) {incident : String}
    (hlive : B.live w.now incident w.outside = true) (settings : Settings.OnCall) :
    ((Escalation.check incident settings).calls (World.answer services) w).filter
      (Called.pagesFor incident) ≠ [] := by
  have hfound := B.answer_present h incident
  rw [hlive] at hfound
  have hremoved := B.answer_remove h hlive
  obtain ⟨r, hpage⟩ := Escalation.page_calls (World.answer services) .deferred incident settings
    { w with outside := claimed services incident w }
  simp only [Escalation.check, Process.calls, Call.isCount, hfound, hremoved, Process.calls_bind,
    hpage]
  simp [Called.pagesFor]

/-- A start that succeeds with a window leaves its incident pending. -/
theorem pending_start (hlasts : B.Lasts) (h : B.sound w.outside) (hsorted : Armed.Sorted w.armed)
    {incident : String} (hnone : w.checksOf incident = []) {settings : Settings.OnCall}
    (hwait : settings.wait ≠ 0) {started : Started}
    (hstarted : (w.perform services (Escalation.start incident settings)).1 = .ok started) :
    B.Pending ⟨w.now + settings.wait, incident, settings⟩
      (w.perform services (Escalation.start incident settings)).2 := by
  have hfits : settings.wait + recordGrace ≤ maxWord := by
    rw [← Nat.not_lt]
    intro hover
    rw [Escalation.start_of_overflow hover] at hstarted
    cases hstarted
  unfold Escalation.start at hstarted ⊢
  simp only [if_neg hwait, if_neg (Nat.not_lt.mpr hfits)] at hstarted ⊢
  rcases hput : services.put w.now incident pendingMarker (settings.wait + recordGrace) w.outside
    with ⟨r, o⟩
  have hcall : World.answer services
      (.put incident pendingMarker (settings.wait + recordGrace)) w =
        (r, { w with outside := o }) := by
    simp only [World.answer, hput]
    rfl
  rw [World.perform_call hcall] at hstarted ⊢
  cases r with
  | error e => cases hstarted
  | ok u =>
      obtain ⟨hsound, -⟩ := B.put w.now incident pendingMarker (settings.wait + recordGrace) _ h
      have hlive := hlasts w.now incident pendingMarker (settings.wait + recordGrace) _ h
        (by rw [hput]) (w.now + settings.wait) (Nat.le_add_right _ _)
        (by simp only [recordGrace]; omega)
      rw [hput] at hsound hlive
      exact ⟨hsound, hsorted.insertInto _, Armed.filter_insertInto_of_none _ _ (by simp) hnone,
        hlive, Nat.lt_add_of_pos_right (Nat.pos_of_ne_zero hwait)⟩

end Backing

namespace Service

variable (s : Service κ ω) {B : Backing s.services} {a : Armed} {w : World ω}

/-- A store goes on working, whatever the service meets with. -/
theorem sound_run (h : B.sound w.outside) (visits : List Visit) :
    B.sound (s.run w visits).outside := by
  induction visits generalizing w with
  | nil => exact h
  | cons v rest ih =>
      cases v with
      | request fresh q => exact ih (B.sound_perform h (s.response w fresh q))
      | advance seconds =>
          exact ih (w := s.step w (.advance seconds)) (B.sound_runChecks
            (w := { w with armed := w.armed.dropWhile (·.due ≤ w.now + seconds) }) h _)

/-- Armed checks stay in order, whatever the service meets with. -/
theorem sorted_run (h : Armed.Sorted w.armed) (visits : List Visit) :
    Armed.Sorted (s.run w visits).armed := by
  induction visits generalizing w with
  | nil => exact h
  | cons v rest ih =>
      cases v with
      | request fresh q => exact ih (World.sorted_perform h (s.response w fresh q))
      | advance seconds =>
          exact ih (w := s.step w (.advance seconds)) (World.sorted_advance h seconds)

/-- What is pending stays so until its check pages, whatever the service meets with, as long as
nobody acknowledges it. -/
theorem pending_step (h : B.Pending a w) {v : Visit} (hv : ¬ v.GivesOut a.incident)
    (hack : ¬ v.Acknowledges a.incident) :
    B.Pending a (s.step w v) ∨ s.pagesOf a.incident w v ≠ [] := by
  cases v with
  | request fresh q =>
      have hfresh : fresh ≠ a.incident := hv
      refine .inl (h.perform (s.response_every (fun _ _ => trivial) (fun _ _ => hfresh)
        (fun _ => hfresh) (fun _ _ => hfresh) ?_ fun _ => trivial))
      rintro key hkey
      refine ⟨trivial, ?_⟩
      rintro rfl
      exact hack hkey
  | advance seconds =>
      let rest : World ω := { w with armed := w.armed.dropWhile (·.due ≤ w.now + seconds) }
      have hsplit := s.checksOf_advance a.incident w seconds
      rw [h.checks, List.append_eq_singleton_iff] at hsplit
      rcases hsplit with ⟨hnone, hchecks⟩ | ⟨hdue, -⟩
      · -- the check is not among those that fall due, and these leave the record alone
        have hne : ∀ b ∈ w.armed.takeWhile (·.due ≤ w.now + seconds), b.incident ≠ a.incident := by
          simpa using List.filter_eq_nil_iff.mp hnone
        have hlive := B.live_runChecks (w := rest) h.sound hne a.due
        refine .inl ⟨B.sound_runChecks (w := rest) h.sound _,
          World.sorted_advance h.sorted seconds, hchecks, hlive.trans h.live, ?_⟩
        have hmem : a ∈ (s.step w (.advance seconds)).armed :=
          (List.mem_filter.mp (hchecks ▸ List.mem_singleton_self a)).1
        have harmed : (s.step w (.advance seconds)).armed =
            w.armed.dropWhile (·.due ≤ w.now + seconds) := World.armed_advance seconds w
        rw [harmed] at hmem
        exact h.sorted.lt_of_mem_dropWhile hmem
      · -- the checks before it leave the record alone, so it finds the record
        obtain ⟨front, back, hfalls, hfront, -, hback⟩ := List.filter_eq_cons_iff.mp hdue
        have hbefore : ∀ b ∈ front, b.incident ≠ a.incident := by simpa using hfront
        let due : World ω := { front.foldl (World.runCheck s.services) rest with now := a.due }
        have hsound : B.sound due.outside := B.sound_runChecks (w := rest) h.sound front
        have hlive : B.live due.now a.incident due.outside = true :=
          (B.live_runChecks (w := rest) h.sound hbefore a.due).trans h.live
        have hpages := B.check_pages_of_live hsound hlive a.settings
        rw [← World.pagesFor_checkCalls_of_own hbefore
          (by simpa using List.filter_eq_nil_iff.mp hback), ← hfalls] at hpages
        exact .inr fun hnil => hpages (List.map_eq_nil_iff.mp hnil)

/-- What nobody acknowledges is paged for once the clock reaches the end of its window. -/
theorem pages_of_pending (h : B.Pending a w) {visits : List Visit}
    (hvisits : ∀ v ∈ visits, ¬ v.GivesOut a.incident ∧ ¬ v.Acknowledges a.incident)
    (hdue : a.due ≤ (s.run w visits).now) : s.pages a.incident w visits ≠ [] := by
  induction visits generalizing w with
  | nil => exact absurd h.early (Nat.not_lt.mpr hdue)
  | cons v rest ih =>
      obtain ⟨⟨hv, hack⟩, hrest⟩ := List.forall_mem_cons.mp hvisits
      rw [pages_cons]
      rcases s.pending_step h hv hack with hpending | hpages
      · exact List.append_ne_nil_of_right_ne_nil _ (ih hpending hrest hdue)
      · exact List.append_ne_nil_of_left_ne_nil hpages _

/-! ### The alert -/

/-- The escalation of an alert began: the alert succeeded, or it failed only because the page that
it made at once was not accepted. -/
def Began (result : Except IncidentError Incident) : Prop :=
  (∃ i, result = .ok i) ∨ ∃ e, result = .error (.onCall (.paging e))

variable {fresh team : String} {content : Content} {q : Server.Request}

/-- Without a window an alert pages at once. -/
theorem pagesOf_alert_ne_nil (halert : q.alert? = some (team, content))
    (he : Relay.escalates (s.relay.settingsFor q.params)
      (Incident.create fresh team content) = true)
    (hwait : (s.relay.settingsFor q.params).onCall.wait = 0)
    (hbegan : Began (w.perform s.services
      (s.relay.createIncident fresh team content q.params)).1) :
    s.pagesOf fresh w (.request fresh q) ≠ [] := by
  obtain ⟨sent, start, hcalls, hcourse⟩ := Relay.createIncident_calls (World.answer s.services)
    s.relay fresh team content q.params w fun _ _ => by
      rw [hwait]
      decide
  have hcourse : Relay.Course s.relay (s.relay.settingsFor q.params) _ sent start
    (w.perform s.services (s.relay.createIncident fresh team content q.params)).1 := hcourse
  rw [← s.calls_alert halert] at hcalls
  have hpage : ∃ r, start = [⟨.page fresh (s.relay.settingsFor q.params).onCall, r⟩] := by
    rcases hbegan with ⟨j, hj⟩ | ⟨e, herror⟩
    · obtain ⟨-, -, hstart⟩ := (hcourse.ok_iff j).mp hj
      obtain ⟨-, started, hbegun⟩ := hstart ((Relay.escalates_announced _ _ _).trans he)
      rw [Relay.id_announced] at hbegun
      cases hbegun with
      | paged => exact ⟨_, rfl⟩
      | pending hwindow => exact absurd hwait hwindow
    · rw [herror] at hcourse
      cases hcourse with
      | failed channels hchannels _ hworkflow _ hbegun =>
          rw [Relay.id_announced] at hbegun
          cases hbegun with
          | pageFailed => exact ⟨_, rfl⟩
  obtain ⟨r, rfl⟩ := hpage
  simp [pagesOf, hcalls, Called.pagesFor]

/-- With a window an alert that succeeds and has to be acknowledged leaves its incident pending. -/
theorem pending_alert (hlasts : B.Lasts) (hsound : B.sound w.outside)
    (hsorted : Armed.Sorted w.armed) (hnone : w.checksOf fresh = [])
    (halert : q.alert? = some (team, content))
    (he : Relay.escalates (s.relay.settingsFor q.params)
      (Incident.create fresh team content) = true)
    (hwait : (s.relay.settingsFor q.params).onCall.wait ≠ 0) {j : Incident}
    (hok : (w.perform s.services
      (s.relay.createIncident fresh team content q.params)).1 = .ok j) :
    let own := (s.relay.settingsFor q.params).onCall
    B.Pending ⟨w.now + own.wait, fresh, own⟩ (s.step w (.request fresh q)) := by
  intro own
  obtain ⟨v, started, hstart, hnow, harmed, hkeeps⟩ := Relay.exists_start_of_ok hok he
  have hpending := B.pending_start hlasts (hkeeps B hsound) (harmed ▸ hsorted)
    ((congrArg (List.filter _) harmed).trans hnone) hwait (congrArg Prod.fst hstart)
  rw [hstart, hnow] at hpending
  rw [s.step_alert halert]
  exact hpending

end Service

end IncidentRelay
