import IncidentRelay.Proofs.Paging.Attempts
import IncidentRelay.Proofs.Paging.Unanswered
import IncidentRelay.Proofs.Settings.Document

/-!
# The target of a page

Whom a page is for. A request can give a target of its own, and the configured one stands in for it
if it is empty. The target goes from the parameters to the settings of the request, with these to
the page that is made at once or to the check that is armed, and from there to the pager, which once
more prefers it to the configured one unless it is empty. Since a pager is ready only if a target is
configured, none of these steps ends with an empty one.

## Main statements

* `Settings.targetFor_ne_empty`: a target is never empty.
* `Pager.names_of_sent`: what a page sends names its incident and the target of its request.
* `Service.page_of_own_request`: which page is made for an incident, whatever happens around it.
-/

namespace IncidentRelay

variable {κ ω σ : Type}

/-! ### The target of a request -/

/-- The target of a request with these parameters: the one that it gives for the pager that is
configured, unless that is empty, and else the configured one. -/
def Settings.targetFor (s : Settings) (params : Params) : String :=
  match s.onCall.provider with
  | .pagerDuty => (params.given? "pagerduty_routing_key").getD s.onCall.pagerDuty.routingKey
  | .incidentManager =>
    (params.given? "awsim_response_plan_arn").getD s.onCall.incidentManager.responsePlan

/-- A request to a paging service that names an incident and a target. -/
def Http.Request.Names (service : PagingService) (incident target : String) (r : Request) : Prop :=
  match service with
  | .pagerDuty =>
    Settings.at? r.body ["routing_key"] = some (.string target) ∧
      Settings.at? r.body ["payload", "custom_details", "incident_id"] = some (.string incident)
  | .incidentManager =>
    Settings.at? r.body ["responsePlanArn"] = some (.string target) ∧
      Settings.at? r.body ["title"] = some (.string (incidentTitle incident))

/-- A parameter that is given is not empty. -/
theorem Params.ne_empty_of_given? {params : Params} {name value : String}
    (h : params.given? name = some value) : value ≠ "" := by
  simpa using (Option.filter_eq_some_iff.mp h).2

/-- What stands in for a parameter that is not given is not empty either. -/
theorem Params.given?_getD_ne_empty (params : Params) (name : String) {configured : String}
    (h : configured ≠ "") : (params.given? name).getD configured ≠ "" := by
  cases hgiven : params.given? name with
  | none => exact h
  | some value => exact ne_empty_of_given? hgiven

namespace Pager

variable {retry : Retry} {s : Settings} {p : Pager}

/-- A pager that is ready has a target. -/
theorem configured_of_create (hp : createWith retry s = .ok p) :
    s.onCall.provider = .pagerDuty ∧ p = .pagerDuty s.onCall.pagerDuty s.name ∧
        s.onCall.pagerDuty.routingKey ≠ "" ∨
      s.onCall.provider = .incidentManager ∧
        p = .incidentManager s.onCall.incidentManager retry ∧
        s.onCall.incidentManager.responsePlan ≠ "" := by
  simp only [createWith] at hp
  cases hprovider : s.onCall.provider with
  | pagerDuty =>
      simp only [hprovider] at hp
      split at hp
      · cases hp
      · next hkey => exact .inl ⟨rfl, (Except.ok.inj hp).symm, hkey⟩
  | incidentManager =>
      simp only [hprovider] at hp
      split at hp
      · cases hp
      · next hplan => exact .inr ⟨rfl, (Except.ok.inj hp).symm, hplan⟩

/-- The target of a request is never empty. -/
theorem targetFor_ne_empty (hp : createWith retry s = .ok p) (params : Params) :
    s.targetFor params ≠ "" := by
  unfold Settings.targetFor
  rcases configured_of_create hp with ⟨hprovider, -, hkey⟩ | ⟨hprovider, -, hplan⟩
  · rw [hprovider]
    exact params.given?_getD_ne_empty _ hkey
  · rw [hprovider]
    exact params.given?_getD_ne_empty _ hplan

/-- A target that is given wins. -/
theorem target_of_ne_empty {own : String} (h : own ≠ "") (configured : String) :
    target (some own) configured = own := if_neg h

/-- A request that could be made has the body that it was made of. -/
theorem body_of_post {url : String} {authorization : Option String} {body : Json.Value}
    {r : Http.Request} (h : Http.Request.post url authorization body = .ok r) : r.body = body := by
  unfold Http.Request.post at h
  split at h
  · cases h
  · cases h
  · split at h
    · cases h
    · rw [← Except.ok.inj h]

/-- What PagerDuty is sent names the incident, and the given routing key unless it is empty. -/
theorem names_of_pagerDuty {settings : Settings.PagerDuty} {source incident : String}
    {own : Settings.OnCall} (hown : own.pagerDuty.routingKey ≠ "") {r : Http.Request}
    (hr : (pagerDuty settings source).request incident (some own) = .ok r) :
    r.Names .pagerDuty incident own.pagerDuty.routingKey := by
  have hbody : r.body = pagerDutyEvent source own.pagerDuty.routingKey incident := by
    simp only [request, Option.map_some, target_of_ne_empty hown] at hr
    split at hr
    · cases hr
    · next hpost => rw [← Except.ok.inj hr, body_of_post hpost]
  unfold Http.Request.Names
  rw [hbody]
  exact ⟨rfl, rfl⟩

/-- What the incident manager is sent names the incident, and the given response plan unless it is
empty. -/
theorem names_of_incidentManager {settings : Settings.IncidentManager} {incident : String}
    {own : Settings.OnCall} (hown : own.incidentManager.responsePlan ≠ "") {r : Http.Request}
    (hr : (incidentManager settings retry).request incident (some own) = .ok r) :
    r.Names .incidentManager incident own.incidentManager.responsePlan := by
  have hbody : r.body = .object [("responsePlanArn", .string own.incidentManager.responsePlan),
      ("title", .string (incidentTitle incident))] := by
    simp only [request, Option.map_some, target_of_ne_empty hown] at hr
    rw [← Except.ok.inj hr]
  unfold Http.Request.Names
  rw [hbody]
  exact ⟨rfl, rfl⟩

/-- The request of a page with the settings of an alert names the incident and the target of that
alert. -/
theorem names_of_request (hp : createWith retry s = .ok p) (params : Params) {incident : String}
    {r : Http.Request}
    (hr : p.request incident (some (s.withOverrides params).onCall) = .ok r) :
    r.Names s.onCall.provider incident (s.targetFor params) := by
  have htarget := targetFor_ne_empty hp params
  unfold Settings.targetFor at htarget ⊢
  rcases configured_of_create hp with ⟨hprovider, rfl, -⟩ | ⟨hprovider, rfl, -⟩
  · rw [hprovider] at htarget ⊢
    exact names_of_pagerDuty htarget hr
  · rw [hprovider] at htarget ⊢
    exact names_of_incidentManager htarget hr

end Pager

/-! ### The page of a request -/

namespace Service

/-- Pages go to the request's own target. Of every request with an alert, in every run of a service
with a pager that is ready, with any other requests before and after: at most one page is made for
its incident, with the settings of this request, at once if these have no window and else by the
check. What such a page sends, over every wire, names the incident and the target of the request,
which is not empty, and it sends nothing only if the pager has no address that can be read. If the
alert has to be acknowledged and its escalation began, the page is made: without a window in any
case, and with a window if the store works, its records last and nobody acknowledges the incident
until the window ends. -/
theorem page_of_own_request (s : Service κ ω) (wire : Wire ω) {retry : Retry} {p : Pager}
    (hp : Pager.createWith retry s.relay.settings = .ok p)
    (hpage : ∀ now incident settings o,
      s.services.page now incident settings o = p.trigger wire incident (some settings) o)
    (fresh : String) {q : Server.Request} {team : String} {content : Content}
    (halert : q.alert? = some (team, content)) (start : World ω) (hstart : start.armed = [])
    (before after : List Visit) (hfresh : ∀ v ∈ before ++ after, ¬ v.GivesOut fresh) :
    let t := s.relay.settings.withOverrides q.params
    let target := s.relay.settings.targetFor q.params
    let pages := s.pages fresh start (before ++ .request fresh q :: after)
    let w := s.run start before
    let result := (w.perform s.services (s.relay.createIncident fresh team content q.params)).1
    target ≠ "" ∧
      (pages = [] ∨ ∃ r, pages =
        [(if t.onCall.wait = 0 then .immediate else .deferred, ⟨.page fresh t.onCall, r⟩)]) ∧
      (∀ now o,
        let logged := p.trigger wire.logged fresh (some t.onCall) (o, [])
        s.services.page now fresh t.onCall o = (logged.1, logged.2.1) ∧
          (∀ x ∈ logged.2.2, x.1.Names s.relay.settings.onCall.provider fresh target) ∧
          (logged.2.2 = [] → ∃ settings source e, p = .pagerDuty settings source ∧
            Http.Address.read settings.eventsUrl = .error e)) ∧
      (Relay.escalates t (Incident.create fresh team content) = true →
        (t.onCall.wait = 0 → Began result → pages ≠ []) ∧
        (t.onCall.wait ≠ 0 → (∃ i, result = .ok i) → ∀ B : Backing s.services, B.Lasts →
          B.sound start.outside → (∀ v ∈ after, ¬ v.Acknowledges fresh) →
            w.now + t.onCall.wait ≤ (s.run (s.step w (.request fresh q)) after).now →
              pages ≠ [])) := by
  intro t target pages w result
  have hsettings : s.relay.settingsFor q.params = t := s.relay.settingsFor_eq q.params
  have hunchecked : start.checksOf fresh = [] := by
    unfold World.checksOf
    rw [hstart]
    rfl
  obtain ⟨hbefore, hafter⟩ := List.forall_mem_append.mp hfresh
  refine ⟨Pager.targetFor_ne_empty hp q.params, ?_, ?_, ?_⟩
  · rw [← hsettings]
    exact s.pages_alert halert hunchecked hfresh
  · intro now o logged
    obtain ⟨hsent, hnothing⟩ := Pager.sent_of_trigger wire p fresh (some t.onCall) o
    refine ⟨(hpage now fresh t.onCall o).trans (p.trigger_logged wire fresh _ (o, [])), ?_, ?_⟩
    · intro x hx
      exact Pager.names_of_request hp q.params (hsent x hx)
    · intro hnil
      exact (p.request_eq_error_iff fresh (some t.onCall)).mp (hnothing.mp hnil)
  · intro he
    rw [← hsettings] at he
    have hpages : pages = s.pages fresh start before ++ (s.pagesOf fresh w (.request fresh q) ++
        s.pages fresh (s.step w (.request fresh q)) after) := s.pages_append fresh start before _
    refine ⟨?_, ?_⟩
    · intro hwait hbegan
      rw [← hsettings] at hwait
      rw [hpages]
      exact List.append_ne_nil_of_right_ne_nil _ (List.append_ne_nil_of_left_ne_nil
        (s.pagesOf_alert_ne_nil halert he hwait hbegan) _)
    · rintro hwait ⟨i, hi⟩ B hlasts hsound hack hdue
      rw [← hsettings] at hwait hdue
      have hquiet : ∀ v ∈ after, ¬ v.GivesOut fresh ∧ ¬ v.Acknowledges fresh :=
        fun v hv => ⟨hafter v hv, hack v hv⟩
      have hsorted : Armed.Sorted start.armed := hstart ▸ List.Pairwise.nil
      have hpending := s.pending_alert hlasts (s.sound_run hsound before)
        (s.sorted_run hsorted before) (s.pages_of_unchecked hunchecked hbefore).2 halert he hwait hi
      rw [hpages]
      exact List.append_ne_nil_of_right_ne_nil _ (List.append_ne_nil_of_right_ne_nil _
        (s.pages_of_pending hpending hquiet hdue))

end Service

/-- A wire over which every request is granted. -/
def Wire.granting : Wire σ where
  exchange _ s := (.reply {}, s)
  submit _ s := (.ok (), s)

/-- A page over a wire that grants everything leaves the outside as it is. -/
theorem Pager.trigger_granting (settings : Settings.PagerDuty) (source incident : String)
    (own : Option Settings.OnCall) (s : σ) :
    ((Pager.pagerDuty settings source).trigger .granting incident own s).2 = s := by
  unfold trigger
  cases (Pager.pagerDuty settings source).request incident own <;> rfl

/-- A service that pages a configured routing key, over a store that is a stand-in. -/
def onDuty : Service Empty Drill where
  relay :=
    { settings :=
        { onCall :=
            { enable := true, provider := .pagerDuty, pagerDuty := { routingKey := "BASE" } } }
      channels := fun _ => .ok []
      name := nofun
      workflow := true }
  services :=
    { Drill.services with
      page := fun _ incident settings d =>
        (Pager.pagerDuty { routingKey := "BASE" } "incidentd").trigger .granting incident
          (some settings) d }

/-- The store of that service works. -/
def onDutyBacking : Backing onDuty.services where
  sound := Drill.backing.sound
  live := Drill.backing.live
  put := Drill.backing.put
  present := Drill.backing.present
  remove := Drill.backing.remove
  page now incident settings d h := by
    have hsame : (onDuty.services.page now incident settings d).2 = d :=
      Pager.trigger_granting _ _ _ _ _
    rw [hsame]
    exact ⟨h, fun _ _ => rfl⟩
  send _ c := nomatch c

/-- Its records last. -/
theorem onDutyBacking_lasts : onDutyBacking.Lasts := by
  intro now key marker ttl d h _ t hfrom hto
  have hmode : d.store.mode = .healthy := h
  have hput : (onDuty.services.put now key marker ttl d).2.store.records =
      d.store.records.put (d.store.instant now) key marker (ttl * 1000) := by
    simp [onDuty, Drill.services, DrillStore.put, hmode]
  have hinstant : (onDuty.services.put now key marker ttl d).2.store.instant t =
      d.store.instant t := by
    simp [onDuty, Drill.services, DrillStore.put, hmode, DrillStore.instant]
  change ((onDuty.services.put now key marker ttl d).2.store.records).present
    ((onDuty.services.put now key marker ttl d).2.store.instant t) key = true
  rw [hput, hinstant, Memory.present_put, if_pos rfl, decide_eq_true_iff]
  unfold DrillStore.instant
  split <;> omega

/-- An alert with a routing key of its own and a window of a minute, among others with another
key. -/
theorem page_of_own_request_team :
    let alert (query : String) : Server.Request :=
      { method := "POST", target := { path := "/api/incidents", query := some query }
        body := [123, 125] }
    let q := alert "pagerduty_routing_key=TEAM&oncall_wait_minutes=1"
    let other := alert "pagerduty_routing_key=OTHER&oncall_wait_minutes=1"
    let own : Settings.OnCall :=
      { enable := true, waitMinutes := 1, provider := .pagerDuty
        pagerDuty := { routingKey := "TEAM" } }
    onDuty.relay.settings.targetFor q.params = "TEAM" ∧
      ∃ r, onDuty.pages "i" { outside := {} }
        ([.request "j" other] ++ .request "i" q :: [.request "k" other, .advance 60]) =
          [(.deferred, ⟨.page "i" own, r⟩)] := by
  intro alert q other own
  have halert : q.alert? = some ("", []) := by decide +kernel
  have hown : (onDuty.relay.settings.withOverrides q.params).onCall = own := by decide +kernel
  have hwait : own.wait = 60 := by decide
  have hquiet : ∀ v ∈ [Visit.request "k" other, .advance 60], ¬ v.Acknowledges "i" := by
    have hother : other.acknowledges? ≠ some "i" := by decide +kernel
    simp [Visit.Acknowledges, hother]
  have hpager : Pager.createWith .standard onDuty.relay.settings =
      .ok (.pagerDuty { routingKey := "BASE" } "incidentd") := rfl
  obtain ⟨-, honce, -, hmade⟩ := onDuty.page_of_own_request .granting hpager
    (fun _ _ _ _ => rfl) "i" halert { outside := {} } rfl [.request "j" other]
    [.request "k" other, .advance 60] (by simp [Visit.GivesOut])
  rw [hown] at honce hmade
  obtain ⟨-, hdeferred⟩ := hmade (by decide +kernel)
  have hok : ∃ i, (World.perform onDuty.services (onDuty.relay.createIncident "i" "" [] q.params)
      (onDuty.run { outside := {} } [.request "j" other])).1 = .ok i := by
    have hanswer : (World.perform onDuty.services (onDuty.relay.createIncident "i" "" [] q.params)
        (onDuty.run { outside := {} } [.request "j" other])).1.isOk = true := by decide +kernel
    generalize (World.perform onDuty.services _ _).1 = result at hanswer ⊢
    cases result with
    | ok i => exact ⟨i, rfl⟩
    | error e => cases hanswer
  have hmade := hdeferred (by decide) hok onDutyBacking onDutyBacking_lasts rfl hquiet
    (by decide +kernel)
  refine ⟨by decide +kernel, ?_⟩
  rcases honce with hnone | hone
  · exact absurd hnone hmade
  · exact hone

end IncidentRelay
