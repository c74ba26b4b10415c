import IncidentRelay.Drill.Workflow
import IncidentRelay.Proofs.Traffic

/-!
# What the counters account for

Every call to a channel or to the pager is counted once, with its outcome, and so is every alert
that is taken and every acknowledgment that succeeded or found nothing. Nothing else is counted. So
the counters of a service say how often each of these happened, however its channels, its store and
its pager behaved.

## Main statements

* `World.counters_perform`: an operation counts its events.
* `dispatch_tallied`, `Escalation.start_tallied`, `Escalation.check_tallied`: these operations count
  their calls to channels and to the pager, and nothing else.
* `Service.counters_step`: what a visit counts.
* `Service.counters_account`: the counters after any run.
* `Service.alert_uncounted`: an alert that is refused unread is not counted.
-/

namespace IncidentRelay

variable {κ α β σ ω : Type}

/-! ### Counting in lists -/

section Counting

variable {ι τ υ : Type} [BEq τ] {e : τ}

/-- What occurs equally often in all parts occurs equally often in the whole. -/
theorem count_flatMap_congr [BEq υ] {d : υ} {f : ι → List τ} {g : ι → List υ}
    (h : ∀ x, (f x).count e = (g x).count d) (l : List ι) :
    (l.flatMap f).count e = (l.flatMap g).count d := by
  simp only [List.count_flatMap, Function.comp_def, h]

/-- What occurs once in the parts of a kind, and else not, occurs as often as there are such
parts. -/
theorem count_flatMap_eq_countP {f : ι → List τ} {g : ι → Option υ} {p : υ → Bool}
    (h : ∀ x, (f x).count e = if (g x).any p then 1 else 0) (l : List ι) :
    (l.flatMap f).count e = (l.filterMap g).countP p := by
  induction l with
  | nil => rfl
  | cons x rest ih =>
      rw [List.flatMap_cons, List.count_append, ih, h]
      cases hx : g x with
      | none => simp [hx]
      | some y => simp [hx, List.countP_cons, Nat.add_comm]

/-- Two lists of marks that agree on which of them count have counted the same. -/
theorem count_filterMap_congr [LawfulBEq τ] [BEq υ] [LawfulBEq υ] {d : υ} {f : ι → Option τ}
    {g : ι → Option υ} (h : ∀ x, f x = some e ↔ g x = some d) (l : List ι) :
    (l.filterMap f).count e = (l.filterMap g).count d := by
  have hany {γ : Type} [BEq γ] [LawfulBEq γ] (o : Option γ) (a : γ) :
      (o.map (· == a)).getD false = true ↔ o = some a := by
    cases o <;> simp
  simp only [List.count, List.countP_filterMap]
  exact List.countP_congr fun x _ => (hany _ _).trans ((h x).trans (hany _ _).symm)

end Counting

/-! ### The events of a run -/

/-- The event that a call counts. -/
def Call.event? : Call κ → Option Event
  | .count event => some event
  | _ => none

/-- The events that a run counts, in order. -/
def Process.counted (answer : (c : Call κ) → σ → c.Reply × σ) : Process κ α → σ → List Event
  | .done _, _ => []
  | .call c next, s =>
    c.event?.toList ++ counted answer (next (answer c s).1) (answer c s).2

/-- The events of a sequence are those of its parts one after the other. -/
theorem Process.counted_bind (answer : (c : Call κ) → σ → c.Reply × σ) (p : Process κ α)
    (f : α → Process κ β) (s : σ) :
    (p.bind f).counted answer s =
      p.counted answer s ++ (f (p.run answer s).1).counted answer (p.run answer s).2 := by
  induction p generalizing s with
  | done a => rfl
  | call c next ih => simp only [bind, counted, run, ih, List.append_assoc]

/-- After some events each has happened as often more as it is among them. -/
theorem Counters.value_foldl (c : Counters) (events : List Event) (e : Event) :
    (events.foldl Counters.increment c).value e = c.value e + events.count e := by
  induction events generalizing c with
  | nil => rfl
  | cons f rest ih =>
      rw [List.foldl_cons, ih, Counters.value_increment, List.count_cons]
      by_cases h : f = e
      · simp only [h, if_true, BEq.rfl]
        omega
      · simp [h]

namespace World

variable (services : Services κ ω)

/-- A call changes the counters by its own event, if it has one. -/
theorem counters_answer (c : Call κ) (w : World ω) :
    (answer services c w).2.counters = c.event?.toList.foldl Counters.increment w.counters := by
  cases c <;> rfl

/-- An operation counts its events. -/
theorem counters_perform (p : Process κ α) (w : World ω) :
    (perform services p w).2.counters =
      (p.counted (answer services) w).foldl Counters.increment w.counters := by
  unfold perform
  induction p generalizing w with
  | done a => rfl
  | call c next ih =>
      simp only [Process.run, Process.counted, ih, counters_answer, List.foldl_append]

end World

/-! ### What is worth an event -/

/-- The channel that was handed an incident, by its name, and whether it took it. -/
def Called.sent? (name : κ → String) : Called κ → Option (String × Bool)
  | ⟨.send c _, .ok _⟩ => some (name c, true)
  | ⟨.send c _, .error _⟩ => some (name c, false)
  | _ => none

/-- Whether the pager that was called accepted the page. -/
def Called.paged? : Called κ → Option Bool
  | ⟨.page .., .ok _⟩ => some true
  | ⟨.page .., .error _⟩ => some false
  | _ => none

/-- The event that a call is worth on a path. -/
def Called.event? (name : κ → String) (path : PagePath) (d : Called κ) : Option Event :=
  match d.sent? name, d.paged? with
  | some (channel, true), _ => some (.sent channel)
  | some (channel, false), _ => some (.sendFailed channel)
  | none, some true => some (.paged path)
  | none, some false => some (.pageFailed path)
  | none, none => none

/-- The event that an acknowledgment is worth. -/
def acknowledgmentEvent? : Except OnCallError Unit → Option Event
  | .ok () => some .acknowledged
  | .error (.notFound _) => some .notFound
  | .error _ => none

/-- What is counted of a channel is what it was sent. -/
theorem event?_eq_sent (name : κ → String) (path : PagePath) (channel : String) (d : Called κ) :
    (d.event? name path = some (.sent channel) ↔ d.sent? name = some (channel, true)) ∧
      (d.event? name path = some (.sendFailed channel) ↔
        d.sent? name = some (channel, false)) := by
  unfold Called.event?
  split <;> simp_all

/-- A call to the pager is none to a channel. -/
theorem sent?_of_paged {name : κ → String} {d : Called κ} {accepted : Bool}
    (h : d.paged? = some accepted) : d.sent? name = none := by
  obtain ⟨c, reply⟩ := d
  cases c with
  | page i settings => rfl
  | put | present | remove | send | arm | count => exact absurd h nofun

/-- What is counted of the pager is what it was asked for. -/
theorem event?_eq_paged {name : κ → String} {path other : PagePath} (d : Called κ) :
    (d.event? name path = some (.paged other) ↔
        d.paged?.map (fun accepted => (path, accepted)) = some (other, true)) ∧
      (d.event? name path = some (.pageFailed other) ↔
        d.paged?.map (fun accepted => (path, accepted)) = some (other, false)) := by
  unfold Called.event?
  cases hpaged : d.paged? with
  | none => split <;> simp_all
  | some accepted =>
      rw [sent?_of_paged hpaged]
      cases accepted <;> simp

/-- An event that is not about a call comes from no call. -/
theorem count_calls_eq_zero {name : κ → String} {path : PagePath} {e : Event}
    (h : e = .received ∨ e = .acknowledged ∨ e = .notFound) (l : List (Called κ)) :
    (l.filterMap (Called.event? name path)).count e = 0 := by
  refine List.count_eq_zero.mpr ?_
  intro hmem
  obtain ⟨d, -, hd⟩ := List.mem_filterMap.mp hmem
  unfold Called.event? at hd
  rcases h with rfl | rfl | rfl <;> split at hd <;> cases hd

/-- An acknowledgment is worth an event if it succeeded and if it found nothing. -/
theorem acknowledgmentEvent?_eq (o : Option (Except OnCallError Unit)) :
    (o.bind acknowledgmentEvent? = some .acknowledged ↔ o.any (· matches .ok ())) ∧
      (o.bind acknowledgmentEvent? = some .notFound ↔ o.any (· matches .error (.notFound _))) ∧
        ∀ e, o.bind acknowledgmentEvent? = some e → e = .acknowledged ∨ e = .notFound := by
  match o with
  | none => simp
  | some (.ok ()) => simp [acknowledgmentEvent?]
  | some (.error e) => cases e <;> simp [acknowledgmentEvent?]

/-- A run of the process counts its calls, each once and nothing else. -/
def Process.Tallied (answer : (c : Call κ) → σ → c.Reply × σ) (name : κ → String)
    (path : PagePath) (p : Process κ α) : Prop :=
  ∀ s, p.counted answer s = (p.calls answer s).filterMap (Called.event? name path)

section Operations

variable {answer : (c : Call κ) → σ → c.Reply × σ} {name : κ → String} {path : PagePath}

/-- Processes that account for their calls do so one after the other. -/
theorem Process.Tallied.bind {p : Process κ α} {f : α → Process κ β}
    (hp : p.Tallied answer name path) (hf : ∀ a, (f a).Tallied answer name path) :
    (p.bind f).Tallied answer name path := by
  intro s
  rw [Process.counted_bind, Process.calls_bind, List.filterMap_append, hp s, hf]

theorem tallied_done (a : α) : (Process.done a : Process κ α).Tallied answer name path :=
  fun _ => rfl

/-- A dispatch counts what it hands to the channels. -/
theorem dispatch_tallied (i : Incident) (channels : List κ) :
    (dispatch name i channels).Tallied answer name path := by
  intro s
  induction channels generalizing s with
  | nil => rfl
  | cons c rest ih =>
      unfold dispatch
      simp only [Process.counted, Process.calls, Call.event?, Call.isCount, Bool.false_eq_true,
        if_false, Option.toList_none, List.nil_append]
      cases answer (.send c i) s with
      | mk reply t =>
          cases reply with
          | error e => rfl
          | ok u =>
              simp only [Process.counted, Process.calls, Call.event?, Call.isCount, if_true, ih]
              rfl

namespace Escalation

variable (incident : String) (settings : Settings.OnCall)

/-- A page accounts for its calls. -/
theorem page_tallied : (page path incident settings).Tallied answer name path := by
  intro s
  unfold page
  simp only [Process.counted, Process.calls, Call.event?, Call.isCount, Bool.false_eq_true,
    if_false, Option.toList_none, List.nil_append]
  cases answer (.page incident settings) s with
  | mk reply t => cases reply <;> rfl

/-- A start counts its page, if it pages at once. -/
theorem start_tallied : (start incident settings).Tallied answer name .immediate := by
  by_cases hwait : settings.wait = 0
  · rw [start_of_wait_zero hwait]
    refine (page_tallied incident settings).bind ?_
    intro r
    cases r <;> exact tallied_done _
  · intro s
    unfold start
    simp only [if_neg hwait]
    split
    · rfl
    · simp only [Process.counted, Process.calls, Call.event?, Call.isCount, Bool.false_eq_true,
        if_false, Option.toList_none, List.nil_append]
      cases answer (.put incident pendingMarker (settings.wait + recordGrace)) s with
      | mk reply t => cases reply <;> rfl

/-- A check counts its page. -/
theorem check_tallied : (check incident settings).Tallied answer name .deferred := by
  intro s
  unfold check
  simp only [Process.counted, Process.calls, Call.event?, Call.isCount, Bool.false_eq_true,
    if_false, Option.toList_none, List.nil_append]
  cases answer (.present incident) s with
  | mk reply t =>
      rcases reply with e | _ | _
      · rfl
      · rfl
      · simp only [Process.counted, Process.calls, Call.event?, Call.isCount, Bool.false_eq_true,
          if_false, Option.toList_none, List.nil_append]
        cases answer (.remove incident) t with
        | mk reply u =>
            rcases reply with e | _ | _
            · rfl
            · rfl
            · exact (page_tallied incident settings).bind (fun _ => tallied_done ()) u

/-- An acknowledgment counts its own outcome, and calls neither a channel nor the pager. -/
theorem acknowledge_counted (s : σ) :
    (acknowledge incident).counted answer s =
        (acknowledgmentEvent? ((acknowledge incident).run answer s).1).toList ∧
      ((acknowledge incident).calls answer s).filterMap (Called.event? name path) = [] := by
  unfold acknowledge
  simp only [Process.counted, Process.calls, Process.run, Call.event?, Call.isCount,
    Bool.false_eq_true, if_false, Option.toList_none, List.nil_append]
  cases answer (.present incident) s with
  | mk reply t =>
      rcases reply with e | _ | _
      · exact ⟨rfl, rfl⟩
      · exact ⟨rfl, rfl⟩
      · simp only [Process.counted, Process.calls, Process.run, Call.event?, Call.isCount,
          Bool.false_eq_true, if_false, Option.toList_none, List.nil_append]
        cases answer (.remove incident) t with
        | mk reply u => rcases reply with e | _ | _ <;> exact ⟨rfl, rfl⟩

end Escalation

namespace Relay

variable (r : Relay κ)

/-- An alert is counted before anything else becomes of it. -/
theorem createIncident_counted (id team : String) (content : Content) (params : Params) (s : σ) :
    (r.createIncident id team content params).counted answer s =
      .received :: ((r.createIncident id team content params).calls answer s).filterMap
        (Called.event? r.name .immediate) := by
  have hescalate (i : Incident) :
      (r.escalate (r.settingsFor params) i).Tallied answer r.name .immediate := by
    unfold escalate
    split
    · split
      · refine (Escalation.start_tallied _ _).bind ?_
        intro started
        cases started <;> exact tallied_done _
      · exact tallied_done _
    · exact tallied_done _
  unfold createIncident
  simp only [Process.counted, Process.calls, Call.event?, Call.isCount, if_true,
    Option.toList_some, List.singleton_append, List.cons.injEq, true_and]
  split
  · rfl
  · refine (dispatch_tallied _ _).bind ?_ _
    intro sent
    cases sent with
    | error e => exact tallied_done _
    | ok u => exact hescalate _

/-- An acknowledgment counts what came of it, and calls nothing else that is counted. -/
theorem acknowledge_counted (answer : (c : Call κ) → σ → c.Reply × σ) (name : κ → String)
    (path : PagePath) (r : Relay κ) (incident : String) (s : σ) :
    (r.acknowledge incident).counted answer s =
        (acknowledgmentEvent? ((r.acknowledge incident).run answer s).1).toList ∧
      ((r.acknowledge incident).calls answer s).filterMap (Called.event? name path) = [] := by
  unfold acknowledge
  split
  · exact Escalation.acknowledge_counted incident s
  · exact ⟨rfl, rfl⟩

end Relay

end Operations

/-! ### The events of a visit -/

/-- A request is not taken as an alert and as an acknowledgment. -/
theorem Server.Request.acknowledges?_of_alert {q : Server.Request} {alert : String × Content}
    (h : q.alert? = some alert) : q.acknowledges? = none := by
  unfold Server.Request.alert? at h
  split at h
  case isFalse => exact absurd h nofun
  case isTrue =>
    obtain ⟨team, hteam, -⟩ := Option.bind_eq_some_iff.mp h
    unfold Server.Request.team? at hteam
    unfold Server.Request.acknowledges?
    split at hteam
    case h_1 hroute => simp only [hroute]
    case h_2 raw hroute => simp only [hroute]
    case h_3 => exact absurd hteam nofun

/-- Whether a visit is an alert that is taken. -/
def Visit.isAlert : Visit → Bool
  | .request _ q => q.alert?.isSome
  | .advance _ => false

namespace Service

variable (s : Service κ ω)

/-- What a visit is worth: the alert that it is, its calls to channels and to the pager, and the
acknowledgment that it asks for. -/
def events (w : World ω) (v : Visit) : List Event :=
  (if v.isAlert then [.received] else []) ++
    (s.calls w v).filterMap (Called.event? s.relay.name v.path) ++
      ((s.acknowledgment? w v).bind acknowledgmentEvent?).toList

/-- The events of a request: its receipt, what its calls come to, and what became of its
acknowledgment. -/
theorem events_request (w : World ω) (fresh : String) (q : Server.Request) :
    s.events w (.request fresh q) =
      (if q.alert?.isSome then [.received] else []) ++
        ((s.response w fresh q).calls (World.answer s.services) w).filterMap
          (Called.event? s.relay.name .immediate) ++
        ((q.acknowledges?.map fun incident =>
          (w.perform s.services (s.relay.acknowledge incident)).1).bind
            acknowledgmentEvent?).toList := rfl

/-- A request counts what it is worth. -/
theorem response_counted (w : World ω) (fresh : String) (q : Server.Request) :
    (s.response w fresh q).counted (World.answer s.services) w =
      s.events w (.request fresh q) := by
  rw [events_request]
  unfold response
  cases halert : q.alert? with
  | some alert =>
      obtain ⟨team, content⟩ := alert
      rw [Server.Request.acknowledges?_of_alert halert, Server.respond_of_alert halert,
        Process.counted_bind, Process.calls_bind, Relay.createIncident_counted]
      simp [Process.counted, Process.calls]
  | none =>
      cases hack : q.acknowledges? with
      | some incident =>
          obtain ⟨hcounted, hcalls⟩ := Relay.acknowledge_counted (World.answer s.services)
            s.relay.name .immediate s.relay incident w
          rw [Server.respond_of_acknowledgment hack, Process.counted_bind, Process.calls_bind,
            hcounted, List.filterMap_append, hcalls]
          simp [Process.counted, Process.calls, World.perform]
      | none =>
          obtain ⟨a, ha⟩ := Server.respond_of_neither s.relay
            (if s.metrics then some w.counters else none) fresh halert hack
          rw [ha]
          rfl

/-- Checks that run one after the other count their pages. -/
theorem counters_foldl (services : Services κ ω) (name : κ → String) (l : List Armed)
    (w : World ω) :
    (l.foldl (World.runCheck services) w).counters =
      ((World.checkCalls services w l).filterMap
        (Called.event? name .deferred)).foldl Counters.increment w.counters := by
  induction l generalizing w with
  | nil => rfl
  | cons a rest ih =>
      have hcheck : (World.runCheck services w a).counters =
          (((Escalation.check a.incident a.settings).calls (World.answer services)
            { w with now := a.due }).filterMap
              (Called.event? name .deferred)).foldl Counters.increment w.counters := by
        unfold World.runCheck
        rw [World.counters_perform, Escalation.check_tallied]
      rw [List.foldl_cons, ih, hcheck, World.checkCalls, List.filterMap_append, List.foldl_append]

/-- A visit counts what it is worth. -/
theorem counters_step (w : World ω) (v : Visit) :
    (s.step w v).counters = (s.events w v).foldl Counters.increment w.counters := by
  cases v with
  | request fresh q =>
      rw [← response_counted]
      exact World.counters_perform s.services _ w
  | advance seconds =>
      have hevents : s.events w (.advance seconds) =
          (s.calls w (.advance seconds)).filterMap (Called.event? s.relay.name .deferred) := by
        simp [events, acknowledgment?, Visit.isAlert, Visit.path]
      rw [hevents]
      exact counters_foldl s.services s.relay.name _ _

/-- A run counts what its visits are worth. -/
theorem value_run (w : World ω) (visits : List Visit) (e : Event) :
    (s.run w visits).counters.value e =
      w.counters.value e + ((s.trace w visits).flatMap fun x => s.events x.1 x.2).count e := by
  induction visits generalizing w with
  | nil => rfl
  | cons v rest ih =>
      have hrest := ih (s.step w v)
      rw [counters_step, Counters.value_foldl] at hrest
      simp only [run, List.foldl_cons, trace, List.flatMap_cons, List.count_append] at hrest ⊢
      omega

/-- The trace of a run has the visits of the run. -/
theorem snd_trace (w : World ω) (visits : List Visit) :
    (s.trace w visits).map Prod.snd = visits := by
  induction visits generalizing w with
  | nil => rfl
  | cons v rest ih => simp only [trace, List.map_cons, ih]

/-! ### The account -/

/-- How often an event is among those of a visit: as the alert, as a call, and as the
acknowledgment. -/
theorem count_events (w : World ω) (v : Visit) (e : Event) :
    (s.events w v).count e =
      (if v.isAlert ∧ e = .received then 1 else 0) +
        ((s.calls w v).filterMap (Called.event? s.relay.name v.path)).count e +
          if (s.acknowledgment? w v).bind acknowledgmentEvent? = some e then 1 else 0 := by
  have halert : (if v.isAlert then [Event.received] else []).count e =
      if v.isAlert ∧ e = .received then 1 else 0 := by
    by_cases he : e = .received
    · subst he
      cases v.isAlert <;> simp
    · cases v.isAlert <;> simp [he, Ne.symm he]
  have hack (o : Option Event) : o.toList.count e = if o = some e then 1 else 0 := by
    cases o <;> simp [List.count_singleton]
  unfold events
  rw [List.count_append, List.count_append, halert, hack]

/-- The counters of a service account for every event. From their beginnings they say at any time
how many alerts were taken, for each channel how often it took an incident and how often it failed,
for each path how often the pager that was called accepted and how often it failed, and how many
acknowledgments succeeded and how many found nothing. Acknowledgments that failed otherwise are not
counted. -/
theorem counters_account (start : World ω) (visits : List Visit) :
    let w := { start with counters := [] }
    let value := (s.run w visits).counters.value
    let sent := (s.trace w visits).flatMap fun x =>
      (s.calls x.1 x.2).filterMap (Called.sent? s.relay.name)
    let paged := (s.trace w visits).flatMap fun x =>
      (s.calls x.1 x.2).filterMap fun d => d.paged?.map fun accepted => (x.2.path, accepted)
    let acknowledgments := (s.trace w visits).filterMap fun x => s.acknowledgment? x.1 x.2
    value .received = visits.countP Visit.isAlert ∧
      (∀ channel, value (.sent channel) = sent.count (channel, true) ∧
        value (.sendFailed channel) = sent.count (channel, false)) ∧
      (∀ path, value (.paged path) = paged.count (path, true) ∧
        value (.pageFailed path) = paged.count (path, false)) ∧
      value .acknowledged = acknowledgments.countP (· matches .ok ()) ∧
      value .notFound = acknowledgments.countP (· matches .error (.notFound _)) := by
  intro w value sent paged acknowledgments
  have hvalue (e : Event) :
      value e = ((s.trace w visits).flatMap fun x => s.events x.1 x.2).count e :=
    (s.value_run w visits e).trans (Nat.zero_add _)
  have hack (x : World ω × Visit) (e : Event) (he : e ≠ .acknowledged ∧ e ≠ .notFound) :
      (s.acknowledgment? x.1 x.2).bind acknowledgmentEvent? ≠ some e := by
    intro h
    exact ((acknowledgmentEvent?_eq _).2.2 e h).elim he.1 he.2
  -- what is about calls: neither the alert nor the acknowledgment of a visit counts
  have hcalls (x : World ω × Visit) (e : Event)
      (he : e ≠ .received ∧ e ≠ .acknowledged ∧ e ≠ .notFound) :
      (s.events x.1 x.2).count e =
        ((s.calls x.1 x.2).filterMap (Called.event? s.relay.name x.2.path)).count e := by
    simp [count_events, he.1, hack x e he.2]
  refine ⟨?_, ?_, ?_, ?_, ?_⟩
  · have hvisit (x : World ω × Visit) :
        (s.events x.1 x.2).count .received = if (some x.2).any Visit.isAlert then 1 else 0 := by
      simp [count_events, count_calls_eq_zero, hack x .received (by simp)]
    rw [hvalue, count_flatMap_eq_countP hvisit, List.filterMap_eq_map', s.snd_trace]
  · intro channel
    have hsent (path : PagePath) := event?_eq_sent s.relay.name path channel
    refine ⟨(hvalue _).trans (count_flatMap_congr ?_ _),
      (hvalue _).trans (count_flatMap_congr ?_ _)⟩
    · intro x
      exact (hcalls x _ (by simp)).trans (count_filterMap_congr (fun d => (hsent _ d).1) _)
    · intro x
      exact (hcalls x _ (by simp)).trans (count_filterMap_congr (fun d => (hsent _ d).2) _)
  · intro path
    refine ⟨(hvalue _).trans (count_flatMap_congr ?_ _),
      (hvalue _).trans (count_flatMap_congr ?_ _)⟩
    · intro x
      exact (hcalls x _ (by simp)).trans (count_filterMap_congr (fun d => (event?_eq_paged d).1) _)
    · intro x
      exact (hcalls x _ (by simp)).trans (count_filterMap_congr (fun d => (event?_eq_paged d).2) _)
  · refine (hvalue _).trans (count_flatMap_eq_countP (fun x => ?_) _)
    simp [count_events, count_calls_eq_zero, (acknowledgmentEvent?_eq _).1]
  · refine (hvalue _).trans (count_flatMap_eq_countP (fun x => ?_) _)
    simp [count_events, count_calls_eq_zero, (acknowledgmentEvent?_eq _).2.1]

/-- A request that is refused unread is not counted. -/
theorem events_of_refused {q : Server.Request} (halert : q.alert? = none)
    (hack : q.acknowledges? = none) (w : World ω) (fresh : String) :
    s.events w (.request fresh q) = [] := by
  obtain ⟨a, ha⟩ := Server.respond_of_neither s.relay
    (if s.metrics then some w.counters else none) fresh halert hack
  rw [events_request, halert, hack]
  unfold response
  rw [ha]
  rfl

end Service

/-- The bytes of an empty JSON object with some blanks in it. -/
def blankObject (n : Nat) : List UInt8 :=
  ('\x7b' :: (List.replicate n ' ' ++ ['\x7d'])).flatMap Text.Utf8.encodeChar

/-- Blanks in front of the end of an object are skipped. -/
theorem scanFrom_blanks (done : List Json.Token) (n : Nat) :
    Json.scanFrom .between done (List.replicate n ' ' ++ ['\x7d']) =
      some ((Json.Token.closeBrace :: done).reverse) := by
  induction n with
  | zero => rfl
  | succ n ih =>
      rw [List.replicate_succ, List.cons_append]
      exact ih

/-- A body of blanks in braces is read as an alert without content. -/
theorem payload?_blankObject (n : Nat) : Server.payload? (blankObject n) = some [] := by
  have hchars : ∀ c ∈ '\x7b' :: (List.replicate n ' ' ++ ['\x7d']), c.toNat < 128 := by
    intro c hc
    simp only [List.mem_cons, List.mem_append, List.mem_replicate, List.not_mem_nil, or_false] at hc
    rcases hc with rfl | ⟨-, rfl⟩ | rfl <;> decide
  have hread : Json.read ('\x7b' :: (List.replicate n ' ' ++ ['\x7d'])) = some (.object []) := by
    have hopen : Json.scan ('\x7b' :: (List.replicate n ' ' ++ ['\x7d'])) =
        Json.scanFrom .between [.openBrace] (List.replicate n ' ' ++ ['\x7d']) := rfl
    unfold Json.read
    rw [hopen, scanFrom_blanks]
    rfl
  unfold Server.payload? blankObject
  rw [Text.Utf8.decode?_ascii _ hchars, Option.bind_some, hread]
  rfl

theorem length_blankObject (n : Nat) : (blankObject n).length = n + 2 := by
  have hsum : ((List.replicate n ' ').map fun c => (Text.Utf8.encodeChar c).length).sum = n := by
    rw [List.map_replicate, List.sum_replicate_nat]
    exact Nat.mul_one n
  unfold blankObject
  rw [List.flatMap_cons, List.flatMap_append, List.length_append, List.length_append,
    List.length_flatMap, hsum, Nat.add_comm]
  rfl

/-- A service without channels, over stand-ins for its store and its pager. -/
def Service.bare : Service Empty Drill where
  relay := { settings := {}, channels := fun _ => .ok [], name := nofun, workflow := false }
  services := Drill.services

/-- A JSON object that is posted as an alert is not counted if it is longer than two mebibytes, and
neither is one that is posted for a team whose name is no text. -/
theorem Service.alert_uncounted :
    let long : Server.Request :=
      { method := "POST", target := { path := "/api/incidents" },
        body := blankObject Server.longestBody }
    let nameless : Server.Request :=
      { method := "POST", target := { path := "/api/incidents/teams/%FF" }, body := blankObject 0 }
    (Server.Route.ofPath? long.target.path = some .incidents ∧
        (Server.payload? long.body).isSome ∧
        (bare.run { outside := {} } [.request "i" long]).counters.value .received = 0) ∧
      Server.Route.ofPath? nameless.target.path = some (.teamIncidents "%FF") ∧
        (Server.payload? nameless.body).isSome ∧
        (bare.run { outside := {} } [.request "i" nameless]).counters.value .received = 0 := by
  intro long nameless
  have hlong : long.alert? = none := by
    have hlength : ¬ long.body.length ≤ Server.longestBody := by
      simp [long, length_blankObject]
    simp [Server.Request.alert?, hlength]
  have hnameless : nameless.alert? = none := by
    have hteam : nameless.team? = none := by decide +kernel
    simp [Server.Request.alert?, hteam]
  have huncounted {q : Server.Request} (halert : q.alert? = none) (hack : q.acknowledges? = none) :
      (bare.run { outside := {} } [.request "i" q]).counters.value .received = 0 := by
    rw [bare.value_run]
    simp [trace, bare.events_of_refused halert hack, Counters.value]
  refine ⟨⟨by decide +kernel, ?_, huncounted hlong (by decide +kernel)⟩, by decide +kernel, ?_,
    huncounted hnameless (by decide +kernel)⟩
  · rw [payload?_blankObject]
    rfl
  · rw [payload?_blankObject]
    rfl

end IncidentRelay
