import IncidentRelay.Drill.Redis
import IncidentRelay.Proofs.Inert
import IncidentRelay.Proofs.MetricsPage
import IncidentRelay.Proofs.Traffic
import Mathlib.Data.List.Forall2

/-!
# Rejected requests

A request that is rejected leaves nothing behind but the count of what was not found. No operation
looks at the counters, so everything later goes as it would have gone without the request. Only the
page on metrics shows the difference, in the lines that tell of that count.

A rejected acknowledgment is void because the store changes nothing when it does not do what it is
asked. Where a removal is done and only its reply is lost, the incident is gone all the same.

## Main statements

* `Service.unchanged_of_recounted`: in worlds that differ in what was not found a visit goes the
  same way.
* `Service.step_of_rejected`: a rejected request changes nothing else, and makes no call that could.
* `Service.rejected_leave_no_trace`: a run goes the same way without any of its rejected requests.
* `Service.rejected_request_noticed`: where the difference shows, and what a lost reply does.
-/

namespace IncidentRelay

variable {κ ω ω' α : Type}

/-- Whether a call may change something outside. It does not if it looks for a record, or if it is
to remove one and does not. -/
def Called.moves : Called κ → Bool
  | ⟨.remove _, Except.ok true⟩ => true
  | ⟨.present _, _⟩ | ⟨.remove _, _⟩ => false
  | _ => true

/-- An acknowledgment that fails has made no call that could change anything. -/
theorem Escalation.acknowledge_moves {σ : Type} {answer : (c : Call κ) → σ → c.Reply × σ}
    {incident : String} {s : σ} {e : OnCallError}
    (h : ((acknowledge incident).run answer s).1 = .error e) :
    ((acknowledge incident).calls answer s).filter Called.moves = [] := by
  rcases hp : answer (.present incident) s with ⟨r, t⟩
  simp only [acknowledge, Process.run, Process.calls, Call.isCount, hp] at h ⊢
  cases r with
  | error e => rfl
  | ok present =>
      cases present with
      | false => rfl
      | true =>
          rcases hr : answer (.remove incident) t with ⟨r, u⟩
          simp only [Process.run, Process.calls, Call.isCount, hr] at h ⊢
          cases r with
          | error e => rfl
          | ok removed =>
              cases removed with
              | false => rfl
              | true => cases h

/-! ### Worlds that differ in what was not found -/

namespace World

namespace Alike

variable {O : ω → ω' → Prop} {K : Counters → Counters → Prop} {S : Services κ ω}
  {T : Services κ ω'} {v : World ω} {w : World ω'}

/-- An operation makes the same calls in worlds that are alike. -/
theorem calls (h : Alike O K v w) (hST : Services.Match O S T) (hK : Counters.Stable K)
    (hp : Services.SamePager O S T) (p : Process κ α) :
    p.calls (World.answer T) w = p.calls (World.answer S) v := by
  induction p generalizing v w with
  | done a => rfl
  | call c next ih =>
      obtain ⟨hreply, hafter⟩ := h.answer hST hK (c := c) (.inl hp)
      simp only [Process.calls]
      rw [hreply, ih _ hafter]

/-- Worlds that are alike make the same checks, with the same calls. -/
theorem checkCalls (h : Alike O K v w) (hST : Services.Match O S T) (hK : Counters.Stable K)
    (hp : Services.SamePager O S T) (l : List Armed) :
    World.checkCalls T w l = World.checkCalls S v l := by
  induction l generalizing v w with
  | nil => rfl
  | cons a rest ih =>
      have hdue : Alike O K { v with now := a.due } { w with now := a.due } :=
        ⟨rfl, h.armed, h.outside, h.counters⟩
      simp only [World.checkCalls]
      rw [hdue.calls hST hK hp, ih (h.runCheck hST hK (.inl hp) a)]

end Alike

/-- Worlds that are the same, up to a relation of what is outside, but for how often something was
not found. -/
abbrev Recounted (O : ω → ω → Prop) : World ω → World ω → Prop :=
  Alike O (Counters.SameBut .notFound)

variable {O : ω → ω → Prop} {S : Services κ ω}

/-- A world is a recount of itself. -/
theorem Recounted.refl (hO : Equivalence O) (w : World ω) : Recounted O w w :=
  ⟨rfl, rfl, hO.refl w.outside, rfl⟩

/-- Two recounts of one world are recounts of each other. -/
theorem Recounted.trans_symm (hO : Equivalence O) {u v w : World ω} (hv : Recounted O u v)
    (hw : Recounted O u w) : Recounted O v w :=
  ⟨hw.now.trans hv.now.symm, hw.armed.trans hv.armed.symm,
    hO.trans (hO.symm hv.outside) hw.outside, (hw.counters.trans hv.counters.symm :)⟩

/-- An acknowledgment that fails leaves nothing behind but the count of what was not found, and it
has made no call that could change anything. -/
theorem recounted_of_refused (hO : Equivalence O) (hS : S.Inert O) {r : Relay κ}
    {incident : String} {w : World ω} {e : OnCallError}
    (h : (w.perform S (r.acknowledge incident)).1 = .error e) :
    Recounted O w (w.perform S (r.acknowledge incident)).2 ∧
      ((r.acknowledge incident).calls (World.answer S) w).filter Called.moves = [] := by
  cases hworkflow : r.workflow with
  | false =>
      rw [Relay.acknowledge_of_no_workflow hworkflow]
      exact ⟨.refl hO w, rfl⟩
  | true =>
      simp only [Relay.acknowledge, hworkflow, if_true] at h ⊢
      refine ⟨?_, Escalation.acknowledge_moves h⟩
      obtain ⟨o, ho, hsame | hcounted⟩ := acknowledge_of_error hS h
      · rw [hsame]
        exact ⟨rfl, rfl, ho, rfl⟩
      · rw [hcounted]
        exact ⟨rfl, rfl, ho, Counters.without_increment_self w.counters .notFound⟩

end World

/-! ### Answers -/

namespace Server

variable {r : Relay κ} {fresh : String} {q : Request}

/-- The answers to a request are the same, or both are the page on metrics and the same but for the
lines that tell of what was not found. -/
def Request.AnsweredAlike (q : Request) (a b : Answer) : Prop :=
  b = a ∨ Route.ofPath? q.target.path = some .metrics ∧ ∃ c d : Counters,
    a = .ok (.text 200 c.page) ∧ b = .ok (.text 200 d.page) ∧ d.linesOfFound = c.linesOfFound

/-- Only the page on metrics looks at the counters. -/
theorem respond_congr {c d : Option Counters} (h : d.isSome = c.isSome)
    (hroute : Route.ofPath? q.target.path ≠ some .metrics) :
    respond r d fresh q = respond r c fresh q := by
  have hserve {route : Route} (hne : route ≠ .metrics) :
      serve r (d.getD []) fresh q route = serve r (c.getD []) fresh q route := by
    cases route with
    | metrics => exact absurd rfl hne
    | health | incidents | teamIncidents | acknowledge => rfl
  simp only [respond, h]
  cases hfound : routeOf? c.isSome q with
  | none => rfl
  | some route =>
      have hne : route ≠ .metrics := by
        rintro rfl
        simp only [routeOf?, Option.filter_eq_some_iff] at hfound
        exact hroute hfound.1
      simp only [hserve hne]

/-- A page on metrics is answered alike if only what was not found was counted differently. -/
theorem respond_metrics {c d : Counters}
    (hroute : Route.ofPath? q.target.path = some .metrics)
    (h : Counters.SameBut .notFound c d) :
    ∃ a b, respond r (some c) fresh q = .done a ∧ respond r (some d) fresh q = .done b ∧
      q.AnsweredAlike a b := by
  have hfound (e : Counters) : routeOf? (some e).isSome q = some .metrics := by
    simp [routeOf?, hroute]
  cases hmethod : Route.metrics.methods.contains q.method with
  | false =>
      exact ⟨_, _, respond_of_method r _ fresh (hfound c) hmethod,
        respond_of_method r _ fresh (hfound d) hmethod, .inl rfl⟩
  | true =>
      have hpage (e : Counters) : respond r (some e) fresh q =
          .done (shorten q.method (.ok (.text 200 e.page))) := by
        simp only [respond, hfound, hmethod, if_true, serve, Process.bind, Option.getD_some]
      refine ⟨_, _, hpage c, hpage d, ?_⟩
      by_cases hhead : q.method = "HEAD"
      · simp only [shorten, if_pos hhead]
        exact .inl rfl
      · simp only [shorten, if_neg hhead]
        exact .inr ⟨hroute, c, d, rfl, rfl, h.lines_eq⟩

/-- Shortening keeps the status. -/
theorem exists_shorten (method : String) (x : Response) :
    ∃ y, shorten method (.ok x) = .ok y ∧ y.status = x.status := by
  simp only [shorten]
  split
  · exact ⟨_, rfl, x.withoutBody_status⟩
  · exact ⟨x, rfl, rfl⟩

end Server

namespace Service

variable (s : Service κ ω)

/-- What a request is answered. -/
def answer (w : World ω) (fresh : String) (q : Server.Request) : Server.Answer :=
  (w.perform s.services (s.response w fresh q)).1

/-- What the store says about a record. -/
def found (w : World ω) (key : String) : Except StoreError Bool :=
  (s.services.present w.now key w.outside).1

/-- The calls of a visit that may change something outside: all that channels and pagers get, what
is written, what is removed, and what is armed. -/
def moves (x : World ω × Visit) : List (Called κ) := (s.calls x.1 x.2).filter Called.moves

/-- A visit goes the same way from two worlds. Its answer, its calls to the outside with the answers
to them, the records that are there afterwards, what was counted until then, the clock, the armed
checks, and everything outside are the same, but for how often something was not found. -/
structure Unchanged (O : ω → ω → Prop) (x y : World ω × Visit) : Prop where
  visit : y.2 = x.2
  answer : ∀ fresh q, x.2 = .request fresh q →
    q.AnsweredAlike (s.answer x.1 fresh q) (s.answer y.1 fresh q)
  calls : s.calls y.1 y.2 = s.calls x.1 x.2
  found : ∀ key, s.found (s.step y.1 y.2) key = s.found (s.step x.1 x.2) key
  counted : ∀ e, e ≠ .notFound →
    (s.step y.1 y.2).counters.value e = (s.step x.1 x.2).counters.value e
  after : World.Recounted O (s.step x.1 x.2) (s.step y.1 y.2)

variable {s} {O : ω → ω → Prop} {v w : World ω} {fresh : String} {q : Server.Request}

/-- Recounted worlds respond in the same way, or with alike answers and no calls. -/
theorem response_recounted (h : World.Recounted O v w) (fresh : String) (q : Server.Request) :
    s.response w fresh q = s.response v fresh q ∨
      ∃ a b, s.response v fresh q = .done a ∧ s.response w fresh q = .done b ∧
        q.AnsweredAlike a b := by
  by_cases hroute : Server.Route.ofPath? q.target.path = some .metrics
  · cases hmetrics : s.metrics with
    | false => exact .inl (by simp only [response, hmetrics, Bool.false_eq_true, if_false])
    | true =>
        simp only [response, hmetrics, if_true]
        exact .inr (Server.respond_metrics hroute h.counters)
  · refine .inl (Server.respond_congr ?_ hroute)
    cases s.metrics <;> rfl

/-- Recounted worlds hold the same records. -/
theorem found_recounted (hS : s.services.Blind O) (h : World.Recounted O v w) (key : String) :
    s.found w key = s.found v key := by
  rw [found, found, h.now]
  exact (hS.same.present h.outside v.now key).1

/-- A request is unchanged if its answer, its calls and what it leaves behind are. -/
theorem Unchanged.of_request (hS : s.services.Blind O)
    (hanswer : q.AnsweredAlike (s.answer v fresh q) (s.answer w fresh q))
    (hcalls : s.calls w (.request fresh q) = s.calls v (.request fresh q))
    (hafter : World.Recounted O (s.step v (.request fresh q)) (s.step w (.request fresh q))) :
    s.Unchanged O (v, .request fresh q) (w, .request fresh q) where
  visit := rfl
  answer := by
    rintro _ _ ⟨rfl, rfl⟩
    exact hanswer
  calls := hcalls
  found := found_recounted hS hafter
  counted _ he := hafter.counters.value_eq he
  after := hafter

/-- In worlds that differ in what was not found a visit goes the same way. -/
theorem unchanged_of_recounted (hS : s.services.Blind O) (h : World.Recounted O v w) (x : Visit) :
    s.Unchanged O (v, x) (w, x) := by
  have hstable := Counters.SameBut.stable .notFound
  cases x with
  | request fresh q =>
      rcases response_recounted (s := s) h fresh q with hsame | ⟨a, b, hv, hw, halike⟩
      · obtain ⟨hresult, hafter⟩ := h.perform hS.same hstable (p := s.response v fresh q)
          (.inl hS.samePager)
        refine .of_request hS (.inl ?_) ?_ ?_
        · rw [answer, answer, hsame]
          exact hresult
        · simp only [Service.calls, hsame]
          exact h.calls hS.same hstable hS.samePager _
        · simp only [step, hsame]
          exact hafter
      · refine .of_request hS ?_ ?_ ?_
        · simp only [answer, hv, hw]
          exact halike
        · simp only [Service.calls, hv, hw]
          rfl
        · simp only [step, hv, hw]
          exact h
  | advance seconds =>
      have hstep := h.advance hS.same hstable (.inl hS.samePager) seconds
      have hrest : World.Recounted O
          { v with armed := v.armed.dropWhile (·.due ≤ v.now + seconds) }
          { w with now := v.now, armed := v.armed.dropWhile (·.due ≤ v.now + seconds) } :=
        ⟨rfl, rfl, h.outside, h.counters⟩
      refine ⟨rfl, nofun, ?_, found_recounted hS hstep, fun _ he => hstep.counters.value_eq he,
        hstep⟩
      simp only [Service.calls]
      rw [h.now, h.armed]
      exact hrest.checkCalls hS.same hstable hS.samePager _

/-! ### Rejected requests -/

/-- A request that is rejected. -/
inductive Rejected (s : Service κ ω) (w : World ω) (fresh : String) (q : Server.Request) : Prop
  /-- An alert without a JSON object. -/
  | malformed (route : Server.Route) (hroute : Server.Route.ofPath? q.target.path = some route)
      (halert : route = .incidents ∨ ∃ team, route = .teamIncidents team)
      (hmethod : q.method = "POST") (hbody : Server.payload? q.body = none)
  /-- An acknowledgment that is not answered with 201. -/
  | unacknowledged (incident : String)
      (hroute : Server.Route.ofPath? q.target.path = some (.acknowledge incident))
      (hstatus : (s.answer w fresh q).map (·.status) ≠ .ok 201)
  /-- A request whose path leads nowhere. -/
  | unknown (hroute : Server.routeOf? s.metrics q = none)
  /-- A request with a method that its route lacks. -/
  | unsupported (route : Server.Route) (hroute : Server.routeOf? s.metrics q = some route)
      (hmethod : route.methods.contains q.method = false)

/-- A request that is answered without a call to the outside, or that asks for an acknowledgment
which fails. -/
def Void (s : Service κ ω) (w : World ω) (fresh : String) (q : Server.Request) : Prop :=
  (∃ a, s.response w fresh q = .done a) ∨ ∃ incident e, q.acknowledges? = some incident ∧
    (w.perform s.services (s.relay.acknowledge incident)).1 = .error e

/-- An acknowledgment that is not answered with 201 has failed, if it was one at all. -/
theorem void_of_unacknowledged {raw : String}
    (hroute : Server.Route.ofPath? q.target.path = some (.acknowledge raw))
    (hstatus : (s.answer w fresh q).map (·.status) ≠ .ok 201) : s.Void w fresh q := by
  cases hack : q.acknowledges? with
  | none =>
      have halert : q.alert? = none := by
        simp [Server.Request.alert?, Server.Request.team?, hroute]
      exact .inl (Server.respond_of_neither s.relay _ fresh halert hack)
  | some incident =>
      refine .inr ⟨incident, ?_⟩
      cases hresult : (w.perform s.services (s.relay.acknowledge incident)).1 with
      | error e => exact ⟨e, hack, rfl⟩
      | ok u =>
          have hanswer : s.answer w fresh q =
              Server.shorten q.method (Server.acknowledgeAnswer (.ok u)) := by
            rw [answer, response, Server.respond_of_acknowledgment hack, World.perform_bind,
              hresult]
            rfl
          obtain ⟨r, hshort, hr⟩ := Server.exists_shorten q.method
            (.json 201 [("status", .string "success")])
          have hcreated : (s.answer w fresh q).map (·.status) = .ok 201 := by
            rw [hanswer]
            exact (congrArg _ hshort).trans (congrArg _ hr)
          exact absurd hcreated hstatus

/-- A request that is rejected leaves nothing behind but a count of what was not found. -/
theorem Rejected.void (h : s.Rejected w fresh q) : s.Void w fresh q := by
  have hcounters : (if s.metrics then some w.counters else none).isSome = s.metrics := by
    cases s.metrics <;> rfl
  cases h with
  | malformed route hroute halert hmethod hbody =>
      refine .inl (Server.respond_of_neither s.relay _ fresh ?_ ?_)
      · simp [Server.Request.alert?, hbody]
      · rcases halert with rfl | ⟨team, rfl⟩ <;> simp [Server.Request.acknowledges?, hroute]
  | unacknowledged incident hroute hstatus => exact void_of_unacknowledged hroute hstatus
  | unknown hroute =>
      rw [← hcounters] at hroute
      exact .inl ⟨.ok .notFound, by simp only [response, Server.respond, hroute]⟩
  | unsupported route hroute hmethod =>
      rw [← hcounters] at hroute
      exact .inl ⟨_, Server.respond_of_method s.relay _ fresh hroute hmethod⟩

/-- A rejected request changes nothing but the count of what was not found, and makes no call that
could. -/
theorem step_of_rejected (hO : Equivalence O) (hS : s.services.Inert O)
    (h : s.Rejected w fresh q) :
    World.Recounted O w (s.step w (.request fresh q)) ∧ s.moves (w, .request fresh q) = [] := by
  rcases h.void with ⟨a, ha⟩ | ⟨incident, e, hack, herror⟩
  · simp only [step, moves, Service.calls, ha]
    exact ⟨.refl hO w, rfl⟩
  · obtain ⟨hafter, hmoves⟩ := World.recounted_of_refused hO hS herror
    simp only [step, moves, Service.calls, response, Server.respond_of_acknowledgment hack,
      World.perform_bind, Process.calls_bind]
    refine ⟨hafter, ?_⟩
    rw [List.filter_append, hmoves]
    rfl

/-! ### Runs without their rejected requests -/

/-- The second trace is the first one without some of its rejected requests. -/
inductive Pruned (s : Service κ ω) : List (World ω × Visit) → List (World ω × Visit) → Prop
  | nil : Pruned s [] []
  | keep (x : World ω × Visit) {l l' : List (World ω × Visit)} :
    Pruned s l l' → Pruned s (x :: l) (x :: l')
  | drop {w : World ω} {fresh : String} {q : Server.Request} {l l' : List (World ω × Visit)} :
    s.Rejected w fresh q → Pruned s l l' → Pruned s ((w, .request fresh q) :: l) l'

/-- Without its rejected requests a run goes the same way. The worlds of the two runs differ in what
was not found, and a rejected request only adds to the difference. -/
theorem Pruned.unchanged (hblind : s.services.Blind O) (hinert : s.services.Inert O)
    {visits : List Visit} {kept : List (World ω × Visit)} (h : World.Recounted O v w)
    (hpruned : s.Pruned (s.trace v visits) kept) :
    List.Forall₂ (s.Unchanged O) kept (s.trace w (kept.map Prod.snd)) ∧
      (s.trace w (kept.map Prod.snd)).flatMap s.moves = (s.trace v visits).flatMap s.moves ∧
      World.Recounted O (s.run v visits) (s.run w (kept.map Prod.snd)) := by
  -- both worlds are general: a rejected request moves only the first one on
  induction visits generalizing v w kept with
  | nil =>
      cases hpruned
      exact ⟨.nil, rfl, h⟩
  | cons x rest ih =>
      simp only [trace] at hpruned
      cases hpruned with
      | keep _ hpruned =>
          have hx := unchanged_of_recounted hblind h x
          obtain ⟨htrace, hmoves, hrun⟩ := ih hx.after hpruned
          refine ⟨.cons hx htrace, ?_, hrun⟩
          have hcalls : s.moves (w, x) = s.moves (v, x) := by
            simp only [moves, hx.calls]
          simp only [List.map_cons, trace, List.flatMap_cons, hcalls, hmoves]
      | drop hrejected hpruned =>
          obtain ⟨hvoid, hnone⟩ := step_of_rejected hblind.equivalence hinert hrejected
          obtain ⟨htrace, hmoves, hrun⟩ := ih (hvoid.trans_symm hblind.equivalence h) hpruned
          refine ⟨htrace, ?_, hrun⟩
          simp only [trace, List.flatMap_cons, hnone, hmoves, List.nil_append]

/-- Rejected requests leave no trace. Without any of them a run goes the same way: every other visit
is answered alike, makes the same calls with the same answers, leaves the same records, and counts
the same, up to what was not found. And all that the run moves outside it moves without them. -/
theorem rejected_leave_no_trace (s : Service κ ω) (hblind : s.services.Blind O)
    (hinert : s.services.Inert O) (w : World ω) (visits : List Visit)
    (kept : List (World ω × Visit)) (hpruned : s.Pruned (s.trace w visits) kept) :
    List.Forall₂ (s.Unchanged O) kept (s.trace w (kept.map Prod.snd)) ∧
      (s.trace w (kept.map Prod.snd)).flatMap s.moves = (s.trace w visits).flatMap s.moves ∧
      World.Recounted O (s.run w visits) (s.run w (kept.map Prod.snd)) :=
  hpruned.unchanged hblind hinert (.refl hblind.equivalence w)

/-- The service of a site. -/
def ofPlan (plan : SitePlan) : Service Outlet Site :=
  { relay := Site.relay plan, services := Site.services plan, metrics := plan.metrics }

/-- A service without channels that waits a minute for acknowledgments. -/
def unheard (services : Services Empty ω) : Service Empty ω where
  relay :=
    { settings := { onCall := { enable := true, waitMinutes := 1 } }
      channels := fun _ => .ok []
      name := nofun
      workflow := true }
  services := services

/-- Requests that are rejected, around an alert that is escalated: over a store that is a stand-in,
where it goes to a channel first, and over a store in Redis whose connection was lost. -/
theorem rejected_leave_no_trace_noise :
    let plan : SitePlan :=
      { settings := { onCall := { enable := true, waitMinutes := 1 } }
        outlets := some [.standIn "chat" none]
        metrics := true }
    let s := ofPlan plan
    let w : World Site := { outside := {} }
    let accept (_ : Page) : Except PagingError Unit := .ok ()
    let t := unheard (Deployment.services {} accept)
    let v : World Deployment := { outside := { redis := ⟨false, {}⟩ } }
    let request (method path : String) (body : List UInt8) : Server.Request :=
      { method, target := { path }, body }
    let alert : Visit := .request "x" (request "POST" "/api/incidents" [123, 125])
    let lost : Visit := .request "a" (request "GET" "/api/ack/lost" [])
    let visits : List Visit :=
      [.request "b" (request "POST" "/api/incidents/teams/ops" [255]), alert, lost,
        .request "c" (request "GET" "/api" []), .request "d" (request "DELETE" "/healthz" []),
        .advance 60]
    (((s.trace w visits).flatMap s.moves).length = 5 ∧
        (s.trace w [alert, .advance 60]).flatMap s.moves = (s.trace w visits).flatMap s.moves) ∧
      ((t.trace v [lost, alert, .advance 60]).flatMap t.moves).length = 4 ∧
        (t.trace v [alert, .advance 60]).flatMap t.moves =
          (t.trace v [lost, alert, .advance 60]).flatMap t.moves := by
  intro plan s w accept t v request alert lost visits
  refine ⟨⟨by decide +kernel, ?_⟩, by decide +kernel, ?_⟩
  · have hpruned : s.Pruned (s.trace w visits) _ :=
      .drop (.malformed (.teamIncidents "ops") (by decide +kernel) (.inr ⟨"ops", rfl⟩) rfl
          (by decide +kernel))
        (.keep _
          (.drop (.unacknowledged "lost" (by decide +kernel) (by decide +kernel))
            (.drop (.unknown (by decide +kernel))
              (.drop (.unsupported .health (by decide +kernel) (by decide +kernel))
                (.keep _ .nil)))))
    exact (rejected_leave_no_trace s s.services.blind_eq (Site.services_inert plan) w visits _
      hpruned).2.1
  · have hpruned : t.Pruned (t.trace v [lost, alert, .advance 60]) _ :=
      .drop (.unacknowledged "lost" (by decide +kernel) (by decide +kernel))
        (.keep _ (.keep _ .nil))
    exact (rejected_leave_no_trace t (Deployment.services_blind {} accept)
      (Deployment.services_inert {} accept) v _ _ hpruned).2.1

/-- A store in Redis whose replies to removals are lost. -/
def forgetful : Services Empty (Redis.Connected DrillRedis) :=
  let link : Redis.Link DrillRedis :=
    { connect := DrillRedis.link.connect
      exchange := fun c d =>
        match c, DrillRedis.link.exchange c d with
        | .remove _, (_, d) => (none, d)
        | _, answered => answered }
  { put := fun _ key marker ttl => Redis.Store.put ⟨link, {}⟩ key marker (ttl * 1000)
    present := fun _ key => Redis.Store.present ⟨link, {}⟩ key
    remove := fun _ key => Redis.Store.remove ⟨link, {}⟩ key
    page := fun _ _ _ o => (.ok (), o)
    send := fun _ c => nomatch c }

/-- A request that is rejected can be noticed in two ways. The page on metrics counts it if it is an
acknowledgment of what is not there. And if the reply to its removal gets lost, an acknowledgment
fails although the record is gone. -/
theorem rejected_request_noticed :
    let request (path : String) : Server.Request := { method := "GET", target := { path } }
    let s := ofPlan
      { settings := { onCall := { initializedOnly := true } }, outlets := some [], metrics := true }
    let w : World Site := { outside := {} }
    let t := unheard forgetful
    let v : World (Redis.Connected DrillRedis) :=
      { outside := { up := true, outside := { records := [("x", "pending")] } } }
    (s.Rejected w "a" (request "/api/ack/nope") ∧
        s.answer (s.step w (.request "a" (request "/api/ack/nope"))) "b" (request "/metrics") ≠
          s.answer w "b" (request "/metrics")) ∧
      t.Rejected v "a" (request "/api/ack/x") ∧
        t.found (t.step v (.request "a" (request "/api/ack/x"))) "x" ≠ t.found v "x" := by
  intro request s w t v
  refine ⟨⟨.unacknowledged "nope" ?_ ?_, ?_⟩, .unacknowledged "x" ?_ ?_, ?_⟩ <;> decide +kernel

end Service

end IncidentRelay
