import IncidentRelay.Proofs.CallLog
import IncidentRelay.Server.Basic

/-!
# Traffic

What a service that runs meets with: requests, and time that passes. A request is an alert that is
taken, an acknowledgment, or one that is answered without a call to the outside.

## Main statements

* `Server.respond_of_alert`, `Server.respond_of_acknowledgment`, `Server.respond_of_neither`: the
  three kinds of requests.
* `Service.response_every`: the calls that a request can make.
-/

namespace IncidentRelay

variable {κ ω : Type}

/-! ### Requests -/

namespace Server

/-- The team of an alert, as far as the path of the request goes. -/
def Request.team? (q : Request) : Option String :=
  match Route.ofPath? q.target.path with
  | some .incidents => some ""
  | some (.teamIncidents raw) => placeText? raw
  | _ => none

/-- The team and the payload of a request that is taken as an alert. -/
def Request.alert? (q : Request) : Option (String × Content) :=
  if q.method = "POST" ∧ q.body.length ≤ longestBody then
    q.team?.bind fun team => (payload? q.body).map fun content => (team, content)
  else none

/-- The parameters of a request. -/
def Request.params (q : Request) : Params := .ofQuery (q.target.query.getD "").toList

/-- The incident that a request acknowledges. -/
def Request.acknowledges? (q : Request) : Option String :=
  match Route.ofPath? q.target.path with
  | some (.acknowledge raw) =>
    if (Route.acknowledge raw).methods.contains q.method then placeText? raw else none
  | _ => none

variable {r : Relay κ} {counters : Option Counters} {fresh : String} {q : Request}

/-- A request is answered by its route, if it has the method. -/
theorem respond_of_route {route : Route} (hroute : Route.ofPath? q.target.path = some route)
    (hmetrics : route ≠ .metrics) (hmethod : route.methods.contains q.method = true) :
    respond r counters fresh q =
      (serve r (counters.getD []) fresh q route).bind fun a => .done (shorten q.method a) := by
  have hroute : routeOf? counters.isSome q = some route := by
    simp [routeOf?, hroute, hmetrics]
  simp only [respond, hroute, hmethod, if_true]

/-- An alert becomes an incident. -/
theorem respond_of_alert {team : String} {content : Content}
    (h : q.alert? = some (team, content)) :
    respond r counters fresh q =
      (r.createIncident fresh team content (.ofQuery (q.target.query.getD "").toList)).bind
        fun x => .done (incidentAnswer x) := by
  unfold Request.alert? at h
  split at h
  case isFalse => cases h
  case isTrue hpost =>
    obtain ⟨hmethod, hlength⟩ := hpost
    obtain ⟨t, hteam, hpayload⟩ := Option.bind_eq_some_iff.mp h
    obtain ⟨payload, hcontent, heq⟩ := Option.map_eq_some_iff.mp hpayload
    obtain ⟨rfl, rfl⟩ : t = team ∧ payload = content := by simpa using heq
    have htake : takeAlert r fresh t q =
        (r.createIncident fresh t payload (.ofQuery (q.target.query.getD "").toList)).bind
          fun x => .done (incidentAnswer x) := by
      simp only [takeAlert, if_neg (Nat.not_lt.mpr hlength), hcontent]
    have hwhole (a : Answer) : shorten q.method a = a := by
      simp [shorten, hmethod]
    unfold Request.team? at hteam
    split at hteam
    case h_1 hroute =>
      obtain rfl : "" = t := by simpa using hteam
      rw [respond_of_route hroute (by simp) (by simp [hmethod, Route.methods])]
      simp only [serve, hwhole, htake, Process.bind_pure]
    case h_2 raw hroute =>
      rw [respond_of_route hroute (by simp) (by simp [hmethod, Route.methods])]
      simp only [serve, hteam, hwhole, htake, Process.bind_pure]
    case h_3 => cases hteam

/-- An acknowledgment is made. -/
theorem respond_of_acknowledgment {incident : String} (h : q.acknowledges? = some incident) :
    respond r counters fresh q =
      (r.acknowledge incident).bind fun x => .done (shorten q.method (acknowledgeAnswer x)) := by
  unfold Request.acknowledges? at h
  split at h
  case h_2 => cases h
  case h_1 raw hroute =>
    split at h
    case isFalse => cases h
    case isTrue hmethod =>
      rw [respond_of_route hroute (by simp) hmethod]
      simp only [serve, h, Process.bind_assoc, Process.bind]

/-- A body that is too long or no JSON object is refused. -/
theorem takeAlert_of_none {team : String} (hteam : q.team? = some team)
    (hmethod : q.method = "POST") (h : q.alert? = none) :
    ∃ a, takeAlert r fresh team q = .done a := by
  unfold takeAlert
  split
  case isTrue => exact ⟨_, rfl⟩
  case isFalse hlength =>
    have hpost : q.method = "POST" ∧ q.body.length ≤ longestBody :=
      ⟨hmethod, Nat.not_lt.mp hlength⟩
    have hpayload : payload? q.body = none := by
      simpa [Request.alert?, if_pos hpost, hteam] using h
    rw [hpayload]
    exact ⟨_, rfl⟩

/-- What is neither is answered without a call to the outside. -/
theorem respond_of_neither (r : Relay κ) (counters : Option Counters) (fresh : String)
    (halert : q.alert? = none) (hack : q.acknowledges? = none) :
    ∃ a, respond r counters fresh q = .done a := by
  cases hroute : routeOf? counters.isSome q with
  | none =>
      simp only [respond, hroute]
      exact ⟨_, rfl⟩
  | some route =>
      cases hmethod : route.methods.contains q.method with
      | false => exact ⟨_, respond_of_method r counters fresh hroute hmethod⟩
      | true =>
          have hpath : Route.ofPath? q.target.path = some route := by
            simp only [routeOf?, Option.filter_eq_some_iff] at hroute
            exact hroute.1
          suffices h : ∃ a, serve r (counters.getD []) fresh q route = .done a by
            obtain ⟨a, ha⟩ := h
            simp only [respond, hroute, hmethod, if_true, ha]
            exact ⟨_, rfl⟩
          cases route with
          | health | metrics => exact ⟨_, rfl⟩
          | incidents =>
              have hteam : q.team? = some "" := by simp only [Request.team?, hpath]
              exact takeAlert_of_none hteam (by simpa [Route.methods] using hmethod) halert
          | teamIncidents raw =>
              have hteam : q.team? = placeText? raw := by simp only [Request.team?, hpath]
              cases hraw : placeText? raw with
              | none =>
                  simp only [serve, hraw]
                  exact ⟨_, rfl⟩
              | some team =>
                  simp only [serve, hraw]
                  exact takeAlert_of_none (hteam.trans hraw)
                    (by simpa [Route.methods] using hmethod) halert
          | acknowledge raw =>
              have hraw : placeText? raw = none := by
                simpa only [Request.acknowledges?, hpath, hmethod, if_true] using hack
              simp only [serve, hraw]
              exact ⟨_, rfl⟩

end Server

/-! ### A service that runs -/

/-- A service, what is behind it, and whether it has a page on metrics. -/
structure Service (κ ω : Type) where
  relay : Relay κ
  services : Services κ ω
  metrics : Bool := false

/-- What a service meets with. -/
inductive Visit
  /-- A request, with the identifier that an incident would get. -/
  | request (fresh : String) (q : Server.Request)
  /-- Time that passes, in seconds. -/
  | advance (seconds : Nat)

/-- Whether a visit gives an identifier out. -/
def Visit.GivesOut (incident : String) : Visit → Prop
  | .request fresh _ => fresh = incident
  | .advance _ => False

/-- Whether a visit acknowledges an incident. -/
def Visit.Acknowledges (incident : String) : Visit → Prop
  | .request _ q => q.acknowledges? = some incident
  | .advance _ => False

/-- On which path a page goes out that is made now: a request pages at once, a check later. -/
def Visit.path : Visit → PagePath
  | .request .. => .immediate
  | .advance _ => .deferred

namespace World

/-- The calls of checks that run one after the other. -/
def checkCalls (services : Services κ ω) (w : World ω) : List Armed → List (Called κ)
  | [] => []
  | a :: rest =>
    (Escalation.check a.incident a.settings).calls (answer services) { w with now := a.due } ++
      checkCalls services (runCheck services w a) rest

end World

namespace Service

variable (s : Service κ ω)

/-- How a request is answered at a moment. -/
def response (w : World ω) (fresh : String) (q : Server.Request) : Process κ Server.Answer :=
  Server.respond s.relay (if s.metrics then some w.counters else none) fresh q

variable {s} in
/-- A request calls for the identifier that it gives out, or for the incident that it acknowledges.
What it pages and arms has settings of its own. -/
theorem response_every {P : Call κ → Prop} {fresh : String} {q : Server.Request} {w : World ω}
    (hsend : ∀ channel i, P (.send channel i))
    (hput : ∀ marker ttl, P (.put fresh marker ttl)) (hpage : ∀ settings, P (.page fresh settings))
    (harm : ∀ settings after, P (.arm fresh settings after))
    (hack : ∀ incident, q.acknowledges? = some incident →
      P (.present incident) ∧ P (.remove incident))
    (hcount : ∀ event, P (.count event)) : (s.response w fresh q).Every P := by
  unfold response
  cases halert : q.alert? with
  | some alert =>
      obtain ⟨team, content⟩ := alert
      rw [Server.respond_of_alert halert]
      refine Process.Every.bind ?_ fun _ => trivial
      exact Relay.createIncident_every (hsend · _) hput (hpage _) (harm _) hcount
  | none =>
      cases hother : q.acknowledges? with
      | some incident =>
          obtain ⟨hpresent, hremove⟩ := hack incident hother
          rw [Server.respond_of_acknowledgment hother]
          refine Process.Every.bind ?_ fun _ => trivial
          unfold Relay.acknowledge
          split
          · exact Escalation.acknowledge_every hpresent hremove hcount
          · trivial
      | none =>
          obtain ⟨a, ha⟩ := Server.respond_of_neither s.relay
            (if s.metrics then some w.counters else none) fresh halert hother
          rw [ha]
          trivial

/-- What comes of a visit. -/
def step (w : World ω) : Visit → World ω
  | .request fresh q => (w.perform s.services (s.response w fresh q)).2
  | .advance seconds => w.advance s.services seconds

/-- What comes of visits one after the other. -/
def run (w : World ω) (visits : List Visit) : World ω := visits.foldl s.step w

/-- The calls of a visit, each with its answer. Counting is left out. -/
def calls (w : World ω) : Visit → List (Called κ)
  | .request fresh q => (s.response w fresh q).calls (World.answer s.services) w
  | .advance seconds =>
    World.checkCalls s.services { w with armed := w.armed.dropWhile (·.due ≤ w.now + seconds) }
      (w.armed.takeWhile (·.due ≤ w.now + seconds))

/-- What became of the acknowledgment that a visit asks for. -/
def acknowledgment? (w : World ω) : Visit → Option (Except OnCallError Unit)
  | .request _ q =>
    q.acknowledges?.map fun incident => (w.perform s.services (s.relay.acknowledge incident)).1
  | .advance _ => none

/-- The visits of a run, each with the world that it finds. -/
def trace (w : World ω) : List Visit → List (World ω × Visit)
  | [] => []
  | v :: rest => (w, v) :: trace (s.step w v) rest

end Service

end IncidentRelay
