import IncidentRelay.Proofs.Alert.Course
import IncidentRelay.Proofs.Backing
import IncidentRelay.Proofs.Traffic

/-!
# The pages for an incident

Which pages a service makes for one incident, whatever else it meets with before, in between and
after. A page is made by the alert of the incident or by the check that this alert armed, and both
have the settings of the alert's own request. No other request arms a check of the incident, so no
other page is made for it.

## Main statements

* `Service.pages_of_unchecked`, `Service.pages_of_checked`: the pages for an incident without a
  check and with one, over every run that does not give out its identifier.
* `Service.pages_alert`: the pages for an incident over a run with its alert in it.
-/

namespace IncidentRelay

variable {κ α σ ω : Type}

/-! ### Calls about an incident -/

/-- Whether a call pages for an incident. -/
def Called.pagesFor (incident : String) : Called κ → Bool
  | ⟨.page key _, _⟩ => key = incident
  | _ => false

/-- A call that neither pages for an incident nor arms a check of it. -/
def Call.Unrelated (incident : String) : Call κ → Prop
  | .page key _ | .arm key _ _ => key ≠ incident
  | .put .. | .present _ | .remove _ | .send .. | .count _ => True

/-- The armed checks of an incident. -/
def World.checksOf (incident : String) (w : World ω) : List Armed :=
  w.armed.filter (·.incident = incident)

section Unrelated

variable {incident : String} {p : Process κ α}

/-- Calls that have nothing to do with an incident do not page for it. -/
theorem pagesFor_calls_of_unrelated (hp : p.Every (Call.Unrelated incident))
    (answer : (c : Call κ) → σ → c.Reply × σ) (t : σ) :
    (p.calls answer t).filter (Called.pagesFor incident) = [] := by
  rw [List.filter_eq_nil_iff]
  rintro ⟨c, r⟩ hd
  have hc : c.Unrelated incident := hp.of_mem_calls answer hd
  cases c with
  | page key settings =>
      have hkey : key ≠ incident := hc
      simpa [Called.pagesFor] using hkey
  | put | present | remove | send | arm | count => simp [Called.pagesFor]

/-- Calls that have nothing to do with an incident arm no check of it. -/
theorem World.checksOf_perform (hp : p.Every (Call.Unrelated incident)) (services : Services κ ω)
    (w : World ω) : (w.perform services p).2.checksOf incident = w.checksOf incident := by
  refine filter_armed_perform ?_ w
  refine hp.mono ?_
  intro c hc now a ha
  cases c with
  | arm key settings after =>
      obtain rfl := Option.some.inj ha
      have hkey : key ≠ incident := hc
      simpa using hkey
  | put | present | remove | page | send | count => cases ha

end Unrelated

/-! ### The checks that fall due -/

/-- A check of another incident has nothing to do with this one. -/
theorem Escalation.check_unrelated {key incident : String} (h : key ≠ incident)
    (settings : Settings.OnCall) :
    (check (κ := κ) key settings).Every (Call.Unrelated incident) :=
  check_every trivial trivial h fun _ => trivial

namespace World

variable {services : Services κ ω} {incident : String} {w : World ω}

/-- Checks are made one after the other. -/
theorem checkCalls_append (l l' : List Armed) (w : World ω) :
    checkCalls services w (l ++ l') =
      checkCalls services w l ++ checkCalls services (l.foldl (runCheck services) w) l' := by
  induction l generalizing w with
  | nil => rfl
  | cons a rest ih =>
      simp only [List.cons_append, checkCalls, ih, List.foldl_cons, List.append_assoc]

/-- Checks of other incidents do not page for this one. -/
theorem pagesFor_checkCalls_of_ne {l : List Armed} (h : ∀ a ∈ l, a.incident ≠ incident)
    (w : World ω) : (checkCalls services w l).filter (Called.pagesFor incident) = [] := by
  induction l generalizing w with
  | nil => rfl
  | cons a rest ih =>
      obtain ⟨ha, hrest⟩ := List.forall_mem_cons.mp h
      rw [checkCalls, List.filter_append, ih hrest, List.append_nil]
      exact pagesFor_calls_of_unrelated (Escalation.check_unrelated ha a.settings) _ _

/-- Of the checks that fall due only the incident's own pages for it. -/
theorem pagesFor_checkCalls_of_own {front back : List Armed} {a : Armed}
    (hfront : ∀ b ∈ front, b.incident ≠ a.incident) (hback : ∀ b ∈ back, b.incident ≠ a.incident)
    (w : World ω) :
    (checkCalls services w (front ++ a :: back)).filter (Called.pagesFor a.incident) =
      ((Escalation.check a.incident a.settings).calls (answer services)
        { front.foldl (runCheck services) w with now := a.due }).filter
          (Called.pagesFor a.incident) := by
  rw [checkCalls_append, List.filter_append, pagesFor_checkCalls_of_ne hfront, List.nil_append,
    checkCalls, List.filter_append, pagesFor_checkCalls_of_ne hback, List.append_nil]

end World

namespace Escalation

/-- A page is one call. -/
theorem page_calls (answer : (c : Call κ) → σ → c.Reply × σ) (path : PagePath) (incident : String)
    (settings : Settings.OnCall) (t : σ) :
    ∃ r, (page path incident settings).calls answer t = [⟨.page incident settings, r⟩] := by
  refine ⟨(answer (.page incident settings) t).1, ?_⟩
  unfold page
  simp only [Process.calls, Call.isCount, Bool.false_eq_true, if_false]
  cases (answer (.page incident settings) t).1 <;> rfl

/-- A check pages at most once, for its own incident and with its own settings. -/
theorem check_pagesFor (answer : (c : Call κ) → σ → c.Reply × σ) (incident : String)
    (settings : Settings.OnCall) (t : σ) :
    let pages := ((check incident settings).calls answer t).filter (Called.pagesFor incident)
    pages = [] ∨ ∃ r, pages = [⟨.page incident settings, r⟩] := by
  intro pages
  simp only [pages, check, Process.calls, Call.isCount, Bool.false_eq_true, if_false]
  rcases answer (.present incident) t with ⟨_ | _ | _, u⟩
  case error | ok.false => exact .inl rfl
  case ok.true =>
    simp only [Process.calls, Call.isCount, Bool.false_eq_true, if_false]
    rcases answer (.remove incident) u with ⟨_ | _ | _, v⟩
    case error | ok.false => exact .inl rfl
    case ok.true =>
      obtain ⟨r, hpage⟩ := page_calls answer .deferred incident settings v
      refine .inr ⟨r, ?_⟩
      simp [Process.calls_bind, Process.calls, hpage, Called.pagesFor]

end Escalation

/-! ### The pages of a run -/

namespace Service

variable (s : Service κ ω) {incident : String} {w : World ω}

/-- The pages for an incident during a visit, each with its path. -/
def pagesOf (incident : String) (w : World ω) (v : Visit) : List (PagePath × Called κ) :=
  ((s.calls w v).filter (Called.pagesFor incident)).map (v.path, ·)

/-- The pages for an incident during visits one after the other. -/
def pages (incident : String) (w : World ω) (visits : List Visit) : List (PagePath × Called κ) :=
  (s.trace w visits).flatMap fun x => s.pagesOf incident x.1 x.2

/-- The pages of a run are those of its first visit and then those of the rest. -/
theorem pages_cons (incident : String) (w : World ω) (v : Visit) (rest : List Visit) :
    s.pages incident w (v :: rest) =
      s.pagesOf incident w v ++ s.pages incident (s.step w v) rest := rfl

/-- The pages of runs one after the other. -/
theorem pages_append (incident : String) (w : World ω) (visits rest : List Visit) :
    s.pages incident w (visits ++ rest) =
      s.pages incident w visits ++ s.pages incident (s.run w visits) rest := by
  induction visits generalizing w with
  | nil => rfl
  | cons v visits ih =>
      rw [List.cons_append, pages_cons, ih, pages_cons, List.append_assoc]
      rfl

/-- At most one page is made for an incident, on a path and with settings. -/
def PagedOnce (path : PagePath) (incident : String) (settings : Settings.OnCall)
    (pages : List (PagePath × Called κ)) : Prop :=
  pages = [] ∨ ∃ r, pages = [(path, ⟨.page incident settings, r⟩)]

/-- A request that does not give the identifier of an incident out has nothing to do with it. -/
theorem response_unrelated {fresh : String} (h : fresh ≠ incident) (w : World ω)
    (q : Server.Request) : (s.response w fresh q).Every (Call.Unrelated incident) :=
  s.response_every (fun _ _ => trivial) (fun _ _ => trivial) (fun _ => h) (fun _ _ => h)
    (fun _ _ => ⟨trivial, trivial⟩) fun _ => trivial

/-- The armed checks of an incident while time passes: those that fall due, and the rest. -/
theorem checksOf_advance (incident : String) (w : World ω) (seconds : Nat) :
    (w.armed.takeWhile (·.due ≤ w.now + seconds)).filter (·.incident = incident) ++
        (s.step w (.advance seconds)).checksOf incident = w.checksOf incident := by
  have hrest : (s.step w (.advance seconds)).checksOf incident =
      (w.armed.dropWhile (·.due ≤ w.now + seconds)).filter (·.incident = incident) :=
    congrArg (List.filter _) (World.armed_advance seconds w)
  rw [hrest, ← List.filter_append, List.takeWhile_append_dropWhile]
  rfl

/-- A request that gives out another identifier neither pages for this one nor arms a check of it.
-/
theorem pagesOf_request_of_ne {fresh : String} (h : fresh ≠ incident) (w : World ω)
    (q : Server.Request) :
    s.pagesOf incident w (.request fresh q) = [] ∧
      (s.step w (.request fresh q)).checksOf incident = w.checksOf incident := by
  have hunrelated := s.response_unrelated h w q
  refine ⟨?_, World.checksOf_perform hunrelated s.services w⟩
  exact congrArg (List.map _) (pagesFor_calls_of_unrelated hunrelated (World.answer s.services) w)

/-- Nobody is paged for an incident while none of its checks falls due. -/
theorem pagesOf_advance_of_none {seconds : Nat}
    (h : (w.armed.takeWhile (·.due ≤ w.now + seconds)).filter (·.incident = incident) = []) :
    s.pagesOf incident w (.advance seconds) = [] := by
  have hne : ∀ a ∈ w.armed.takeWhile (·.due ≤ w.now + seconds), a.incident ≠ incident := by
    simpa using List.filter_eq_nil_iff.mp h
  exact congrArg (List.map _) (World.pagesFor_checkCalls_of_ne hne _)

/-- If one check of an incident falls due, it pages at most once. -/
theorem pagesOf_advance_of_one {seconds : Nat} {a : Armed}
    (h : (w.armed.takeWhile (·.due ≤ w.now + seconds)).filter (·.incident = a.incident) = [a]) :
    PagedOnce .deferred a.incident a.settings (s.pagesOf a.incident w (.advance seconds)) := by
  obtain ⟨front, back, hdue, hfront, -, hback⟩ := List.filter_eq_cons_iff.mp h
  have hpages : s.pagesOf a.incident w (.advance seconds) = _ :=
    congrArg (List.map _) (hdue ▸ World.pagesFor_checkCalls_of_own (by simpa using hfront)
      (by simpa using List.filter_eq_nil_iff.mp hback) _)
  rw [hpages]
  rcases Escalation.check_pagesFor (World.answer s.services) a.incident a.settings _ with
    hnone | ⟨r, hone⟩
  · exact .inl (congrArg (List.map _) hnone)
  · exact .inr ⟨r, congrArg (List.map _) hone⟩

/-- Without an armed check nobody is paged for an incident, and none is armed, unless its identifier
is given out. -/
theorem pagesOf_of_unchecked (h : w.checksOf incident = []) {v : Visit}
    (hv : ¬ v.GivesOut incident) :
    s.pagesOf incident w v = [] ∧ (s.step w v).checksOf incident = [] := by
  cases v with
  | request fresh q =>
      obtain ⟨hpages, hchecks⟩ := s.pagesOf_request_of_ne hv w q
      exact ⟨hpages, hchecks.trans h⟩
  | advance seconds =>
      have hsplit := s.checksOf_advance incident w seconds
      rw [h, List.append_eq_nil_iff] at hsplit
      exact ⟨s.pagesOf_advance_of_none hsplit.1, hsplit.2⟩

/-- Without an armed check of an incident, no visits page for it until its identifier is given out.
-/
theorem pages_of_unchecked (h : w.checksOf incident = []) {visits : List Visit}
    (hvisits : ∀ v ∈ visits, ¬ v.GivesOut incident) :
    s.pages incident w visits = [] ∧ (s.run w visits).checksOf incident = [] := by
  induction visits generalizing w with
  | nil => exact ⟨rfl, h⟩
  | cons v rest ih =>
      obtain ⟨hv, hrest⟩ := List.forall_mem_cons.mp hvisits
      obtain ⟨hpages, hchecks⟩ := s.pagesOf_of_unchecked h hv
      obtain ⟨hlater, hend⟩ := ih hchecks hrest
      exact ⟨by rw [pages_cons, hpages, hlater, List.append_nil], hend⟩

/-- An armed check is still armed after a visit and has paged nobody, or it is gone and has paged at
most once. -/
theorem pagesOf_of_checked {a : Armed} (h : w.checksOf a.incident = [a]) {v : Visit}
    (hv : ¬ v.GivesOut a.incident) :
    s.pagesOf a.incident w v = [] ∧ (s.step w v).checksOf a.incident = [a] ∨
      PagedOnce .deferred a.incident a.settings (s.pagesOf a.incident w v) ∧
        (s.step w v).checksOf a.incident = [] := by
  cases v with
  | request fresh q =>
      obtain ⟨hpages, hchecks⟩ := s.pagesOf_request_of_ne hv w q
      exact .inl ⟨hpages, hchecks.trans h⟩
  | advance seconds =>
      have hsplit := s.checksOf_advance a.incident w seconds
      rw [h, List.append_eq_singleton_iff] at hsplit
      rcases hsplit with ⟨hdue, hrest⟩ | ⟨hdue, hrest⟩
      · exact .inl ⟨s.pagesOf_advance_of_none hdue, hrest⟩
      · exact .inr ⟨s.pagesOf_advance_of_one hdue, hrest⟩

/-- A check pages at most once, with its own settings, whatever the service meets with. -/
theorem pages_of_checked {a : Armed} (h : w.checksOf a.incident = [a]) {visits : List Visit}
    (hvisits : ∀ v ∈ visits, ¬ v.GivesOut a.incident) :
    PagedOnce .deferred a.incident a.settings (s.pages a.incident w visits) := by
  induction visits generalizing w with
  | nil => exact .inl rfl
  | cons v rest ih =>
      obtain ⟨hv, hrest⟩ := List.forall_mem_cons.mp hvisits
      rw [pages_cons]
      rcases s.pagesOf_of_checked h hv with ⟨hpages, hchecks⟩ | ⟨hpages, hchecks⟩
      · rw [hpages, List.nil_append]
        exact ih hchecks hrest
      · rw [(s.pages_of_unchecked hchecks hrest).1, List.append_nil]
        exact hpages

end Service

/-! ### The alert of an incident -/

namespace Relay

variable (r : Relay κ) (incident team : String) (content : Content) (params : Params)

variable {r} in
/-- If the window does not fit, an escalation makes no call. -/
theorem escalate_of_overflow {s : Settings} (h : maxWord < s.onCall.wait + recordGrace)
    (i : Incident) : ∃ result, r.escalate s i = .done result := by
  unfold escalate
  rw [Escalation.start_of_overflow h]
  split
  · split <;> exact ⟨_, rfl⟩
  · exact ⟨_, rfl⟩

/-- If the window does not fit, an alert goes to the channels and nothing else becomes of it. -/
theorem createIncident_calls_of_overflow (answer : (c : Call κ) → σ → c.Reply × σ) (t : σ)
    (h : maxWord < (r.settingsFor params).onCall.wait + recordGrace) :
    ∃ sent, (r.createIncident incident team content params).calls answer t =
      handed (announced (r.settingsFor params) (Incident.create incident team content)) sent := by
  simp only [createIncident, Process.calls, Call.isCount, if_true]
  cases r.channels (r.settingsFor params) with
  | error e => exact ⟨[], rfl⟩
  | ok channels =>
      let i := announced (r.settingsFor params) (Incident.create incident team content)
      obtain ⟨sent, hcalls, -⟩ := dispatch_calls answer r.name i channels
        (answer (.count .received) t).2
      refine ⟨sent, ?_⟩
      rw [Process.calls_bind, hcalls]
      refine (congrArg (handed i sent ++ ·) ?_).trans (List.append_nil _)
      cases ((dispatch r.name i channels).run answer (answer (.count .received) t).2).1 with
      | error e => rfl
      | ok u =>
          obtain ⟨result, hresult⟩ := escalate_of_overflow (r := r) h i
          simp only [i] at hresult
          simp only [hresult]
          rfl

/-- After the channels an alert makes the calls of a start, or none. -/
theorem createIncident_reaches (answer : (c : Call κ) → σ → c.Reply × σ) (t : σ) :
    ∃ i sent start, (r.createIncident incident team content params).calls answer t =
        handed i sent ++ start ∧
      (start = [] ∨
        ∃ result, Escalation.Begun incident (r.settingsFor params).onCall start result) := by
  by_cases hfits : (r.settingsFor params).onCall.wait + recordGrace ≤ maxWord
  · obtain ⟨sent, start, hcalls, hcourse⟩ := createIncident_calls answer r incident team content
      params t fun _ _ => hfits
    refine ⟨_, sent, start, hcalls, ?_⟩
    by_cases hstart : start = []
    · exact .inl hstart
    · obtain ⟨result, hbegun⟩ := hcourse.exists_begun hstart
      rw [id_announced] at hbegun
      exact .inr ⟨result, hbegun⟩
  · obtain ⟨sent, hcalls⟩ := r.createIncident_calls_of_overflow incident team content params answer
      t (Nat.not_le.mp hfits)
    exact ⟨_, sent, [], hcalls.trans (List.append_nil _).symm, .inl rfl⟩

variable {r incident team content params}

/-- An alert that succeeds goes to its channels, and then it escalates. -/
theorem exists_escalate_of_ok {services : Services κ ω} {w : World ω} {j : Incident}
    (h : (w.perform services (r.createIncident incident team content params)).1 = .ok j) :
    ∃ v : World ω, w.perform services (r.createIncident incident team content params) =
        v.perform services (r.escalate (r.settingsFor params)
          (announced (r.settingsFor params) (Incident.create incident team content))) ∧
      v.now = w.now ∧ v.armed = w.armed ∧
        ∀ B : Backing services, B.sound w.outside → B.sound v.outside := by
  let counted : World ω := { w with counters := w.counters.increment .received }
  have hcounted : World.answer services (.count .received) w = ((), counted) := rfl
  cases hchannels : r.channels (r.settingsFor params) with
  | error e =>
      simp only [createIncident, hchannels, World.perform_call hcounted] at h
      cases h
  | ok channels =>
      simp only [createIncident, hchannels, World.perform_call hcounted, World.perform_bind] at h ⊢
      generalize (counted.perform services (dispatch r.name _ channels)).1 = sent at h ⊢
      cases sent with
      | error e => cases h
      | ok u =>
          refine ⟨_, rfl, World.now_perform _ _ _, ?_, ?_⟩
          · exact World.armed_perform_of_none (p := dispatch r.name _ channels)
              (dispatch_every (fun _ _ => rfl) (fun _ _ => rfl) r.name channels) counted
          · intro B hB
            exact B.sound_perform (w := counted) hB _

/-- An alert that succeeds and has to be acknowledged ends with its start. Before that it made calls
to the channels only. -/
theorem exists_start_of_ok {services : Services κ ω} {w : World ω} {j : Incident}
    (h : (w.perform services (r.createIncident incident team content params)).1 = .ok j)
    (he : escalates (r.settingsFor params) (Incident.create incident team content) = true) :
    ∃ (v : World ω) (started : Started),
      v.perform services (Escalation.start incident (r.settingsFor params).onCall) =
          (.ok started, (w.perform services (r.createIncident incident team content params)).2) ∧
      v.now = w.now ∧ v.armed = w.armed ∧
        ∀ B : Backing services, B.sound w.outside → B.sound v.outside := by
  obtain ⟨v, hv, hsame⟩ := exists_escalate_of_ok h
  have hid : (announced (r.settingsFor params) (Incident.create incident team content)).id =
      incident := id_announced _ _
  rw [hv] at h ⊢
  unfold escalate at h ⊢
  rw [escalates_announced, he, hid, if_pos rfl] at h ⊢
  cases hworkflow : r.workflow with
  | false =>
      rw [hworkflow] at h
      cases h
  | true =>
      rw [hworkflow, if_pos rfl, World.perform_bind] at h
      rw [if_pos rfl, World.perform_bind]
      cases hstarted : (v.perform services
          (Escalation.start incident (r.settingsFor params).onCall)).1 with
      | error e =>
          rw [hstarted] at h
          cases h
      | ok started => exact ⟨v, started, Prod.ext hstarted rfl, hsame⟩

end Relay

namespace Service

variable (s : Service κ ω) {fresh team : String} {content : Content} {q : Server.Request}
  {w : World ω}

/-- The response to an alert is made of what becomes of the alert. -/
theorem response_alert (h : q.alert? = some (team, content)) (w : World ω) (fresh : String) :
    s.response w fresh q = (s.relay.createIncident fresh team content q.params).bind
      fun x => .done (Server.incidentAnswer x) :=
  Server.respond_of_alert h

/-- The calls of a request with an alert are those that become of the alert. -/
theorem calls_alert (h : q.alert? = some (team, content)) (w : World ω) (fresh : String) :
    s.calls w (.request fresh q) =
      (s.relay.createIncident fresh team content q.params).calls (World.answer s.services) w := by
  have hcalls := (s.relay.createIncident fresh team content q.params).calls_bind
    (World.answer s.services) (fun x => .done (Server.incidentAnswer x)) w
  rw [← s.response_alert h w] at hcalls
  exact hcalls.trans (List.append_nil _)

/-- A request with an alert does what the alert does. -/
theorem step_alert (h : q.alert? = some (team, content)) (w : World ω) (fresh : String) :
    s.step w (.request fresh q) =
      (w.perform s.services (s.relay.createIncident fresh team content q.params)).2 := by
  have hperform := World.perform_bind s.services
    (s.relay.createIncident fresh team content q.params)
    (fun x => .done (Server.incidentAnswer x)) w
  rw [← s.response_alert h w] at hperform
  exact congrArg Prod.snd hperform

/-- An alert pages at once, or arms the check of its incident, or does neither. -/
theorem pagesOf_alert (halert : q.alert? = some (team, content)) (hnone : w.checksOf fresh = []) :
    let own := (s.relay.settingsFor q.params).onCall
    let pages := s.pagesOf fresh w (.request fresh q)
    let checks := (s.step w (.request fresh q)).checksOf fresh
    pages = [] ∧ checks = [] ∨
      own.wait = 0 ∧ PagedOnce .immediate fresh own pages ∧ checks = [] ∨
        own.wait ≠ 0 ∧ pages = [] ∧ checks = [⟨w.now + own.wait, fresh, own⟩] := by
  intro own pages checks
  obtain ⟨i, sent, start, hcalls, hstart⟩ := s.relay.createIncident_reaches fresh team content
    q.params (World.answer s.services) w
  rw [← s.calls_alert halert] at hcalls
  have hpages : pages = (start.filter (Called.pagesFor fresh)).map (.immediate, ·) := by
    have hhanded : (handed i sent).filter (Called.pagesFor fresh) = [] := by
      simp [handed, List.filter_map, Function.comp_def, Called.pagesFor]
    simp only [pages, pagesOf, hcalls, List.filter_append, hhanded, List.nil_append, Visit.path]
  have hchecks : checks = ((start.filterMap (·.1.armed? w.now)).foldl
      (fun l a => a.insertInto l) w.armed).filter (·.incident = fresh) := by
    have hhanded : (handed i sent).filterMap (·.1.armed? w.now) = [] :=
      List.filterMap_eq_nil_iff.mpr fun d hd => (Relay.idle_of_mem_handed hd w.now).2
    have harmed := World.armed_perform s.services (s.response w fresh q) w
    have hcalls : (s.response w fresh q).calls (World.answer s.services) w = _ := hcalls
    rw [hcalls, List.filterMap_append, hhanded] at harmed
    exact congrArg (List.filter _) harmed
  rcases hstart with rfl | ⟨result, hbegun⟩
  · exact .inl ⟨hpages, hchecks.trans hnone⟩
  · cases hbegun with
    | paged hwait =>
        have hone : pages = [(.immediate, ⟨.page fresh own, .ok ()⟩)] := by
          simpa [Called.pagesFor] using hpages
        exact .inr (.inl ⟨hwait, .inr ⟨_, hone⟩, hchecks.trans hnone⟩)
    | pageFailed hwait e =>
        have hone : pages = [(.immediate, ⟨.page fresh own, .error e⟩)] := by
          simpa [Called.pagesFor] using hpages
        exact .inr (.inl ⟨hwait, .inr ⟨_, hone⟩, hchecks.trans hnone⟩)
    | unrecorded hwait e => exact .inl ⟨hpages, hchecks.trans hnone⟩
    | pending hwait =>
        refine .inr (.inr ⟨hwait, hpages, hchecks.trans ?_⟩)
        exact Armed.filter_insertInto_of_none _ _ (by simp) hnone

/-- The pages for an incident over a run with its alert: at most one, with the settings of the
request, at once if these have no window, and else by the check. -/
theorem pages_alert (halert : q.alert? = some (team, content)) {before after : List Visit}
    (hnone : w.checksOf fresh = []) (hfresh : ∀ v ∈ before ++ after, ¬ v.GivesOut fresh) :
    let own := (s.relay.settingsFor q.params).onCall
    PagedOnce (if own.wait = 0 then .immediate else .deferred) fresh own
      (s.pages fresh w (before ++ .request fresh q :: after)) := by
  intro own
  obtain ⟨hbefore, hafter⟩ := List.forall_mem_append.mp hfresh
  obtain ⟨hpages, hchecks⟩ := s.pages_of_unchecked hnone hbefore
  rw [pages_append, hpages, List.nil_append, pages_cons]
  rcases s.pagesOf_alert halert hchecks with ⟨hown, hend⟩ | ⟨hwait, hown, hend⟩ |
    ⟨hwait, hown, hend⟩
  · rw [hown, (s.pages_of_unchecked hend hafter).1]
    exact .inl rfl
  · rw [(s.pages_of_unchecked hend hafter).1, List.append_nil, if_pos hwait]
    exact hown
  · rw [hown, List.nil_append, if_neg hwait]
    let a : Armed := ⟨(s.run w before).now + own.wait, fresh, own⟩
    exact s.pages_of_checked (a := a) hend hafter

end Service

end IncidentRelay
