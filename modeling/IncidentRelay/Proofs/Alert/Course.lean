import IncidentRelay.Proofs.Alert.Link
import IncidentRelay.Proofs.CallLog
import IncidentRelay.Proofs.Interleaving.Pool
import IncidentRelay.Proofs.Settings.WindowRange

/-!
# The course of an alert

Which calls become of an alert, in which order, and what they leave behind. The alert goes to the
channels one after the other, up to the first that refuses it. If all of them took it and it has to
be acknowledged, its escalation starts, once and after the last channel.

## Main statements

* `Relay.createIncident_calls`: the calls of an alert, one case for each way in which it can go.
* `World.pending_perform_of_quiet`, `World.pending_perform_of_put`: what calls do to the records.
* `Relay.alert_course`: when the escalation of an alert starts, when the alert succeeds, and that it
  leaves nothing behind when it fails.
-/

namespace IncidentRelay

variable {κ α σ ω : Type}

/-! ### The whole alert -/

namespace Relay

/-- How an alert can go: what the channels answered, the calls after that, and its result. -/
inductive Course (r : Relay κ) (s : Settings) (i : Incident) :
    List (κ × Except ChannelError Unit) → List (Called κ) → Except IncidentError Incident → Prop
  | unbuilt (e : ChannelError) (h : r.channels s = .error e) :
      Course r s i [] [] (.error (.channels e))
  | undelivered (channels : List κ) (h : r.channels s = .ok channels)
      {sent : List (κ × Except ChannelError Unit)} (e : DispatchError)
      (hd : Dispatched r.name channels sent (.error e)) :
      Course r s i sent [] (.error (.dispatch e))
  | unescalated (channels : List κ) (h : r.channels s = .ok channels) (he : escalates s i = false) :
      Course r s i (taken channels) [] (.ok i)
  | unattended (channels : List κ) (h : r.channels s = .ok channels) (he : escalates s i = true)
      (hw : r.workflow = false) :
      Course r s i (taken channels) [] (.error (.onCall .uninitialized))
  | begun (channels : List κ) (h : r.channels s = .ok channels) (he : escalates s i = true)
      (hw : r.workflow = true) {start : List (Called κ)} (started : Started)
      (hs : Escalation.Begun i.id s.onCall start (.ok started)) :
      Course r s i (taken channels) start (.ok i)
  | failed (channels : List κ) (h : r.channels s = .ok channels) (he : escalates s i = true)
      (hw : r.workflow = true) {start : List (Called κ)} (e : OnCallError)
      (hs : Escalation.Begun i.id s.onCall start (.error e)) :
      Course r s i (taken channels) start (.error (.onCall e))

/-- The channels could be built, and all of them took what they were handed. -/
def Accepted (r : Relay κ) (s : Settings) (sent : List (κ × Except ChannelError Unit)) : Prop :=
  ∃ channels, r.channels s = .ok channels ∧ sent = taken channels

namespace Course

variable {r : Relay κ} {s : Settings} {i : Incident}
  {sent : List (κ × Except ChannelError Unit)} {start : List (Called κ)}

/-- A dispatch that failed has not been accepted by all channels. -/
theorem not_accepted_of_undelivered {channels : List κ} {e : DispatchError}
    (hd : Dispatched r.name channels sent (.error e)) : ¬ r.Accepted s sent := by
  rintro ⟨others, -, hsent⟩
  exact hd.ne_taken others hsent

/-- The escalation starts if all channels took the incident and it has to be acknowledged. -/
theorem start_ne_nil_iff {result : Except IncidentError Incident}
    (h : Course r s i sent start result) :
    start ≠ [] ↔ r.Accepted s sent ∧ escalates s i = true ∧ r.workflow = true := by
  cases h with
  | unbuilt e h => simp [Accepted, h]
  | undelivered channels h e hd => simp [not_accepted_of_undelivered hd]
  | unescalated channels h he => simp [he]
  | unattended channels h he hw => simp [hw]
  | begun channels h he hw started hs => exact iff_of_true hs.ne_nil ⟨⟨channels, h, rfl⟩, he, hw⟩
  | failed channels h he hw e hs => exact iff_of_true hs.ne_nil ⟨⟨channels, h, rfl⟩, he, hw⟩

/-- What starts is the escalation of the incident, with the settings of the request. -/
theorem exists_begun {result : Except IncidentError Incident}
    (h : Course r s i sent start result) (hstart : start ≠ []) :
    ∃ started, Escalation.Begun i.id s.onCall start started := by
  cases h with
  | begun channels h he hw started hs => exact ⟨_, hs⟩
  | failed channels h he hw e hs => exact ⟨_, hs⟩
  | _ => exact absurd rfl hstart

/-- An alert succeeds if all channels took the incident and, if it has to be acknowledged, its
escalation could start. -/
theorem ok_iff {result : Except IncidentError Incident} (h : Course r s i sent start result)
    (j : Incident) :
    result = .ok j ↔ j = i ∧ r.Accepted s sent ∧
      (escalates s i = true → r.workflow = true ∧
        ∃ started, Escalation.Begun i.id s.onCall start (.ok started)) := by
  cases h with
  | unbuilt e h => simp [Accepted, h]
  | undelivered channels h e hd => simp [not_accepted_of_undelivered hd]
  | unescalated channels h he =>
      simp only [Except.ok.injEq, eq_comm (a := i)]
      exact (and_iff_left ⟨⟨channels, h, rfl⟩, fun h => absurd h (by simp [he])⟩).symm
  | unattended channels h he hw => simp [he, hw]
  | begun channels h he hw started hs =>
      simp only [Except.ok.injEq, eq_comm (a := i)]
      exact (and_iff_left ⟨⟨channels, h, rfl⟩, fun _ => ⟨hw, started, hs⟩⟩).symm
  | failed channels h he hw e hs =>
      refine iff_of_false nofun ?_
      rintro ⟨-, -, hbegun⟩
      obtain ⟨-, started, hok⟩ := hbegun he
      exact hs.not_ok_of_error hok

end Course

/-- What becomes of an alert once all channels took it. -/
theorem escalate_calls (answer : (c : Call κ) → σ → c.Reply × σ) {r : Relay κ} {s : Settings}
    {i : Incident} {channels : List κ} (h : r.channels s = .ok channels)
    (hfits : escalates s i = true → r.workflow = true →
      s.onCall.wait + recordGrace ≤ maxWord) (t : σ) :
    Course r s i (taken channels) ((r.escalate s i).calls answer t)
      ((r.escalate s i).run answer t).1 := by
  unfold escalate
  cases he : escalates s i with
  | false => exact .unescalated channels h he
  | true =>
      cases hw : r.workflow with
      | false => exact .unattended channels h he hw
      | true =>
          have hs := Escalation.start_calls answer i.id (hfits he hw) t
          simp only [if_true, Process.calls_bind, Process.run_bind]
          generalize ((Escalation.start i.id s.onCall).run answer t).2 = u
          generalize ((Escalation.start i.id s.onCall).run answer t).1 = result at hs
          cases result with
          | error e => simpa [Process.calls, Process.run] using .failed channels h he hw e hs
          | ok started =>
              simpa [Process.calls, Process.run] using .begun channels h he hw started hs

/-- The calls of an alert. -/
theorem createIncident_calls (answer : (c : Call κ) → σ → c.Reply × σ) (r : Relay κ)
    (incident team : String) (content : Content) (params : Params) (t : σ)
    (hfits : escalates (r.settingsFor params) (Incident.create incident team content) = true →
      r.workflow = true → (r.settingsFor params).onCall.wait + recordGrace ≤ maxWord) :
    let i := announced (r.settingsFor params) (Incident.create incident team content)
    let p := r.createIncident incident team content params
    ∃ sent start, p.calls answer t = handed i sent ++ start ∧
      Course r (r.settingsFor params) i sent start (p.run answer t).1 := by
  intro i p
  simp only [p, createIncident, Process.calls, Process.run, Call.isCount, if_true]
  cases hchannels : r.channels (r.settingsFor params) with
  | error e => exact ⟨[], [], rfl, .unbuilt e hchannels⟩
  | ok channels =>
      simp only [Process.calls_bind, Process.run_bind]
      generalize (answer (.count .received) t).2 = u
      obtain ⟨sent, hcalls, hsent⟩ := dispatch_calls answer r.name i channels u
      rw [hcalls]
      generalize ((dispatch r.name i channels).run answer u).2 = v
      cases hresult : ((dispatch r.name i channels).run answer u).1 with
      | error e =>
          rw [hresult] at hsent
          exact ⟨sent, [], by simp [Process.calls], .undelivered channels hchannels e hsent⟩
      | ok a =>
          rw [hresult] at hsent
          cases hsent
          refine ⟨taken channels, _, rfl, ?_⟩
          refine escalate_calls answer hchannels ?_ v
          intro he
          exact hfits (by simpa [i] using he)

end Relay

/-! ### What the calls leave behind -/

/-- Services that keep records: a successful write makes a record pending, and what else becomes of
an alert, a write that fails included, leaves all records as they are. -/
structure Services.Keeps (services : Services κ ω)
    (pending : (now : Nat) → (key : String) → ω → Prop) : Prop where
  put_ok : ∀ now key marker ttl o, (services.put now key marker ttl o).1 = .ok () → 0 < ttl →
    pending now key (services.put now key marker ttl o).2
  put_error : ∀ now key marker ttl o e, (services.put now key marker ttl o).1 = .error e →
    ∀ other, pending now other (services.put now key marker ttl o).2 ↔ pending now other o
  page : ∀ now incident settings o other,
    pending now other (services.page now incident settings o).2 ↔ pending now other o
  send : ∀ now c i o other, pending now other (services.send now c i o).2 ↔ pending now other o

/-- An answered call that leaves the records alone. -/
def Called.Quiet : Called κ → Prop
  | ⟨.send .., _⟩ | ⟨.page .., _⟩ | ⟨.arm .., _⟩ | ⟨.count _, _⟩ | ⟨.put .., .error _⟩ => True
  | ⟨.put .., .ok _⟩ | ⟨.present _, _⟩ | ⟨.remove _, _⟩ => False

namespace World

variable {services : Services κ ω} {pending : (now : Nat) → (key : String) → ω → Prop}

/-- A quiet call leaves the records alone. -/
theorem pending_answer_of_quiet (hkeeps : services.Keeps pending) {c : Call κ} {w : World ω}
    (h : Called.Quiet ⟨c, (answer services c w).1⟩) (key : String) :
    pending w.now key (answer services c w).2.outside ↔ pending w.now key w.outside := by
  cases c with
  | put other marker ttl =>
      cases hput : (services.put w.now other marker ttl w.outside).1 with
      | error e => exact hkeeps.put_error _ _ _ _ _ e hput key
      | ok u =>
          have h : Called.Quiet (κ := κ) ⟨.put other marker ttl,
            (services.put w.now other marker ttl w.outside).1⟩ := h
          rw [hput] at h
          exact h.elim
  | page incident settings => exact hkeeps.page _ _ _ _ _
  | send channel i => exact hkeeps.send _ _ _ _ _
  | arm | count => exact Iff.rfl
  | present | remove => exact h.elim

/-- Quiet calls leave the records alone. -/
theorem pending_perform_of_quiet (hkeeps : services.Keeps pending) {p : Process κ α} {w : World ω}
    (h : ∀ d ∈ p.calls (answer services) w, d.Quiet) (key : String) :
    pending w.now key (perform services p w).2.outside ↔ pending w.now key w.outside := by
  unfold perform
  induction p generalizing w with
  | done a => exact Iff.rfl
  | call c next ih =>
      have hrest := ih (answer services c w).1 (w := (answer services c w).2) fun d hd => by
        refine h d ?_
        unfold Process.calls
        split
        · exact hd
        · exact List.mem_cons_of_mem _ hd
      rw [now_answer] at hrest
      refine hrest.trans (pending_answer_of_quiet hkeeps ?_ key)
      cases c with
      | count event => trivial
      | _ => exact h _ List.mem_cons_self

/-- What is written is pending as long as only quiet calls follow. -/
theorem pending_perform_of_put (hkeeps : services.Keeps pending) {p : Process κ α} {w : World ω}
    {front back : List (Called κ)} {key marker : String} {ttl : Nat} (httl : 0 < ttl)
    (h : p.calls (answer services) w = front ++ ⟨.put key marker ttl, .ok ()⟩ :: back)
    (hback : ∀ d ∈ back, d.Quiet) :
    pending w.now key (perform services p w).2.outside := by
  unfold perform
  induction p generalizing w front with
  | done a => simp [Process.calls] at h
  | call c next ih =>
      rw [← now_answer services c w]
      unfold Process.calls at h
      dsimp only at h
      split at h
      · exact ih _ h
      · cases front with
        | cons d front => exact ih _ (List.cons_eq_cons.mp h).2
        | nil =>
            obtain ⟨hhead, hrest⟩ := List.cons_eq_cons.mp h
            obtain ⟨rfl, hok⟩ := Sigma.mk.inj hhead
            have hwritten := hkeeps.put_ok w.now key marker ttl w.outside (eq_of_heq hok) httl
            rw [← hrest] at hback
            exact (pending_perform_of_quiet hkeeps hback key).mpr hwritten

end World

namespace Relay

variable {r : Relay κ} {s : Settings} {i : Incident}
  {sent : List (κ × Except ChannelError Unit)} {start : List (Called κ)}

/-- Handing an incident to a channel is quiet and arms nothing. -/
theorem idle_of_mem_handed {d : Called κ} (h : d ∈ handed i sent) (now : Nat) :
    d.Quiet ∧ d.1.armed? now = none := by
  obtain ⟨x, -, rfl⟩ := List.mem_map.mp h
  exact ⟨trivial, rfl⟩

/-- An alert that fails writes nothing and arms nothing. -/
theorem Course.idle_of_error {e : IncidentError} (h : Course r s i sent start (.error e))
    (now : Nat) : ∀ d ∈ handed i sent ++ start, d.Quiet ∧ d.1.armed? now = none := by
  intro d hd
  rcases List.mem_append.mp hd with hhanded | hstart
  · exact idle_of_mem_handed hhanded now
  · cases h with
    | failed channels h he hw e hs =>
        cases hs with
        | pageFailed hwait e | unrecorded hwait e =>
            obtain rfl := List.mem_singleton.mp hstart
            exact ⟨trivial, rfl⟩
    | _ => simp at hstart

end Relay

/-- A store in memory keeps its records, whatever comes of a call. -/
theorem Fortune.services_keeps (f : Fortune) :
    (f.services : Services κ Memory).Keeps fun now key m => m.present (now * 1000) key = true where
  put_ok now key marker ttl m hok httl := by
    cases hfault : f.fault with
    | some e => simp [Fortune.services, hfault] at hok
    | none =>
        have hlater : now * 1000 < now * 1000 + ttl * 1000 := by omega
        simp [Fortune.services, hfault, Memory.present_put, hlater]
  put_error now key marker ttl m e herror other := by
    cases hfault : f.fault with
    | some e => simp [Fortune.services, hfault]
    | none => simp [Fortune.services, hfault] at herror
  page _ _ _ _ _ := Iff.rfl
  send _ _ _ _ _ := Iff.rfl

namespace Relay

/-- From an alert to its escalation, in a service whose settings passed the check on loading: their
window is in range, and no parameter of a request takes it out of range. Whatever the store, the
pager and the channels answer, the channels get the alert's incident one after the other, and then
its escalation starts if all of them took it, it is not resolved, on-call is enabled for the
request and there is a workflow. It starts once, for this incident and with the settings of the
request: with one page at once if there is no window, and otherwise with one write. The alert
succeeds if all channels took the incident and, where it has to be acknowledged, its escalation
could start. An alert that fails leaves no record and no armed check behind. One that has to be
acknowledged and succeeds was paged at once, or it is pending and its check is armed. -/
theorem alert_course {services : Services κ ω} {pending : (now : Nat) → (key : String) → ω → Prop}
    (hkeeps : services.Keeps pending) (r : Relay κ) (incident team : String) (content : Content)
    (params : Params) (w : World ω) (hfresh : ¬ pending w.now incident w.outside)
    (hunarmed : ∀ a ∈ w.armed, a.incident ≠ incident)
    (hrange : r.settings.onCall.waitMinutes ≤ maxWaitMinutes) :
    let s := r.settings.withOverrides params
    let asks := !isResolved content && s.onCall.enable
    let p := r.createIncident incident team content params
    let result := (w.perform services p).1
    let after := (w.perform services p).2
    ∃ i sent start, i.id = incident ∧
      p.calls (World.answer services) w = handed i sent ++ start ∧
      (start ≠ [] ↔ r.Accepted s sent ∧ asks = true ∧ r.workflow = true) ∧
      (start ≠ [] → ∃ started, Escalation.Begun incident s.onCall start started) ∧
      (∀ j, result = .ok j ↔ j = i ∧ r.Accepted s sent ∧ (asks = true → r.workflow = true ∧
        ∃ started, Escalation.Begun incident s.onCall start (.ok started))) ∧
      (∀ e, result = .error e → ¬ pending after.now incident after.outside ∧
        ∀ a ∈ after.armed, a.incident ≠ incident) ∧
      ∀ j, result = .ok j → asks = true →
        start = [⟨.page incident s.onCall, .ok ()⟩] ∧ s.onCall.wait = 0 ∨
          pending after.now incident after.outside ∧
            after.armed.filter (·.incident = incident) =
              [⟨w.now + s.onCall.wait, incident, s.onCall⟩] := by
  intro s asks p result after
  have hs : r.settingsFor params = s := r.settingsFor_eq params
  have hfits : s.onCall.wait + recordGrace ≤ maxWord :=
    Settings.OnCall.record_fits (Settings.withOverrides_waitMinutes_le hrange params)
  obtain ⟨sent, start, hcalls, hcourse⟩ := createIncident_calls (World.answer services) r incident
    team content params w fun _ _ => hs ▸ hfits
  rw [hs] at hcalls hcourse
  let i := announced s (Incident.create incident team content)
  have hcourse : Course r s i sent start result := hcourse
  have hid : i.id = incident := id_announced s _
  have hasks : escalates s i = asks := escalates_announced s s _
  have hnow : after.now = w.now := World.now_perform services p w
  refine ⟨i, sent, start, hid, hcalls, ?_, ?_, ?_, ?_, ?_⟩
  · rw [← hasks]
    exact hcourse.start_ne_nil_iff
  · rw [← hid]
    exact hcourse.exists_begun
  · rw [← hasks, ← hid]
    exact hcourse.ok_iff
  · intro e he
    have hidle := Course.idle_of_error (he ▸ hcourse) w.now
    rw [← hcalls] at hidle
    refine ⟨?_, ?_⟩
    · rw [hnow, World.pending_perform_of_quiet hkeeps fun d hd => (hidle d hd).1]
      exact hfresh
    · rw [World.armed_perform, List.filterMap_eq_nil_iff.mpr fun d hd => (hidle d hd).2]
      exact hunarmed
  · intro j hj hask
    obtain ⟨-, -, hbegun⟩ := (hcourse.ok_iff j).mp hj
    obtain ⟨-, started, hstart⟩ := hbegun (hasks.trans hask)
    rw [hid] at hstart
    cases hstart with
    | paged hwait => exact .inl ⟨rfl, hwait⟩
    | pending hwait =>
        refine .inr ⟨?_, ?_⟩
        · rw [hnow]
          exact World.pending_perform_of_put hkeeps (Nat.succ_pos _) hcalls (by simp [Called.Quiet])
        · have hnone : w.armed.filter (·.incident = incident) = [] :=
            List.filter_eq_nil_iff.mpr (by simpa using hunarmed)
          have hhanded : (handed i sent).filterMap (·.1.armed? w.now) = [] :=
            List.filterMap_eq_nil_iff.mpr fun d hd => (idle_of_mem_handed hd w.now).2
          rw [World.armed_perform, hcalls, List.filterMap_append, hhanded]
          exact Armed.filter_insertInto_of_none _ _ (by simp) hnone

/-- An alert with a window of a minute is pending afterwards. -/
theorem alert_course_minute :
    let onCall : Settings.OnCall := { enable := true, waitMinutes := 1 }
    let alert := (board onCall).createIncident "i" "ops" [] []
    let after := (World.perform (Fortune.services {}) alert { outside := [] }).2
    after.outside.present (after.now * 1000) "i" = true ∧
      after.armed.filter (·.incident = "i") = [⟨60, "i", onCall⟩] := by
  intro onCall alert after
  obtain ⟨i, sent, start, -, -, -, -, -, -, hpending⟩ :=
    alert_course (Fortune.services_keeps {}) (board onCall) "i" "ops" [] [] { outside := [] }
      (by decide) (by simp) (by decide)
  rcases hpending _ rfl rfl with ⟨-, hwait⟩ | h
  · exact absurd hwait (by decide)
  · exact h

end Relay

end IncidentRelay
