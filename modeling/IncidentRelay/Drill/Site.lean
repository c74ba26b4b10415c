import IncidentRelay.Channel.Build
import IncidentRelay.Drill.Wire
import IncidentRelay.Drill.Workflow
import IncidentRelay.Paging.Pager
import IncidentRelay.Server.Basic
import IncidentRelay.Startup

/-!
# Drills of the whole service

The service with everything it reaches. Channels, pager and store are either those that the settings
choose, over a wire that replies as told, or stand-ins that do as told and keep what they were
given. After each step the drill reports what came of it and what was done outside during it.

## Main statements

* `Site.proceed_eq_ok`: only a request without an answer ends a drill.
-/

namespace IncidentRelay

/-- A channel of a drill. -/
inductive Outlet
  /-- A stand-in that keeps what it is given, and then fails or not. -/
  | standIn (name : String) (failure : Option ChannelError)
  | own (c : Channel)

/-- The name of a channel of a drill. -/
def Outlet.name : Outlet → String
  | .standIn name _ => name
  | .own c => c.name

/-- An incident that a stand-in was given. -/
structure Delivered where
  channel : String
  incident : Incident

/-- Everything outside the service. -/
structure Site where
  /-- The stand-ins for the store and the pager. -/
  drill : Drill := {}
  /-- The records of the store that the settings choose. -/
  records : Memory := []
  wire : DrillWire := {}
  /-- What the stand-ins for channels were given, last first. -/
  delivered : List Delivered := []

/-- How a site is built. -/
structure SitePlan where
  settings : Settings
  files : Files := []
  /-- The stand-ins for channels; without them the settings choose. -/
  outlets : Option (List Outlet) := none
  ownPager : Bool := false
  ownStore : Bool := false
  metrics : Bool := false

namespace Site

/-- The wire of a site. -/
def wireOf : Wire Site := DrillWire.wire Site.wire fun s wire => { s with wire }

/-- Hands an incident to a channel. -/
def send (files : Files) (o : Outlet) (i : Incident) (s : Site) : Except ChannelError Unit × Site :=
  match o with
  | .own c => c.deliver wireOf files i s
  | .standIn name failure =>
    (match failure with
      | some e => .error e
      | none => .ok (),
      { s with delivered := ⟨name, i⟩ :: s.delivered })

/-- The services of a site whose store and pager are stand-ins. -/
def standIns (files : Files) : Services Outlet Site where
  put now key marker ttl s :=
    let (r, drill) := Drill.services.put now key marker ttl s.drill
    (r, { s with drill })
  present now key s :=
    let (r, drill) := Drill.services.present now key s.drill
    (r, { s with drill })
  remove now key s :=
    let (r, drill) := Drill.services.remove now key s.drill
    (r, { s with drill })
  page now incident settings s :=
    let (r, drill) := Drill.services.page now incident settings s.drill
    (r, { s with drill })
  send _ o i s := send files o i s

/-- The services with the pager that the settings choose. -/
def withPager (p : Pager) (services : Services Outlet Site) : Services Outlet Site :=
  { services with page := fun _ incident settings s => p.trigger wireOf incident (some settings) s }

/-- The services with a store in memory of its own. Its records do not run out during a drill. -/
def withMemory (services : Services Outlet Site) : Services Outlet Site :=
  { services with
    put := fun _ key marker ttl s =>
      (.ok (), { s with records := s.records.put 0 key marker (ttl * 1000) })
    present := fun _ key s => (.ok (s.records.present 0 key), s)
    remove := fun _ key s =>
      let (removed, records) := s.records.remove key
      (.ok removed, { s with records }) }

/-- Sends an incident to stand-ins for channels. -/
def dispatchTo (outlets : List Outlet) (i : Incident) (w : World Site) :
    Except DispatchError Unit × World Site :=
  w.perform (standIns []) (dispatch Outlet.name i outlets)

/-- Sends incidents one after the other, to what the stand-ins were given for each and what came of
it. -/
def dispatchEach (outlets : List Outlet) (w : World Site) :
    List Incident → List (List Delivered × Except DispatchError Unit) × World Site
  | [] => ([], w)
  | i :: rest =>
    let (r, w) := dispatchTo outlets i { w with outside := { w.outside with delivered := [] } }
    let (rs, last) := dispatchEach outlets w rest
    ((w.outside.delivered.reverse, r) :: rs, last)

/-- A step of a drill. -/
inductive Step
  | request (method target : String) (body : List UInt8)
  | advance (seconds : Nat)
  | setStore (mode : StoreMode)
  | setPager (failure : Option PagingError)
  | setReplies (script : List Http.Outcome)

/-- What came of a step. -/
inductive Outcome
  | answered (a : Server.Answer)
  /-- The request cannot be expressed. -/
  | malformed
  | nothing

/-- The report on a step. -/
structure Report where
  outcome : Outcome
  delivered : List Delivered
  requests : List Http.Request
  mails : List SubmittedMail
  written : List Written
  /-- The pages made during the step, in the order in which they were made. -/
  pages : List Page

/-- A service that runs. -/
structure Running where
  relay : Relay Outlet
  services : Services Outlet Site
  metrics : Bool
  world : World Site
  /-- How many identifiers were given out. -/
  identifiers : Nat := 0

/-- The identifier that the service gives out after a number of others. -/
def identifierAt (n : Nat) : String :=
  Incident.identifier ((n + 1) * 0x9E3779B97F4A7C15F39CC0605CEDC835)

/-- What comes of making the parts of a site ready. No Redis server can be reached. -/
def parts (plan : SitePlan) : Startup.Parts where
  store :=
    if plan.ownStore && plan.settings.store.backend == .redis then
      .error (.unavailable "Connection refused (os error 111)")
    else .ok ()
  pager := if plan.ownPager then (Pager.create plan.settings).map Pager.name else .ok ""
  channels :=
    if plan.outlets.isSome then .ok []
    else (buildChannels plan.files plan.settings.alert).map fun cs => cs.map Channel.name

/-- The services of a site. -/
def services (plan : SitePlan) : Services Outlet Site :=
  let services := standIns plan.files
  let services := if plan.ownStore then withMemory services else services
  match Pager.create plan.settings with
  | .ok p => if plan.ownPager then withPager p services else services
  | .error _ => services

/-- The service of a site. -/
def relay (plan : SitePlan) : Relay Outlet where
  settings := plan.settings
  channels s :=
    match plan.outlets with
    | some outlets => .ok outlets
    | none => (buildChannels plan.files s.alert).map fun cs => cs.map .own
  name := Outlet.name
  workflow := plan.settings.onCall.workflowRequired

/-- Starts the service of a plan. -/
def start (plan : SitePlan) : Except StartupError Running :=
  match (Startup.prepare (parts plan) plan.settings).2 with
  | .error e => .error e
  | .ok () =>
    .ok { relay := relay plan, services := services plan, metrics := plan.metrics,
          world := { outside := {} } }

/-- Does what a step says. -/
def perform (r : Running) : Step → Outcome × Running
  | .request method target body =>
    match Server.Request.read? method target body with
    | none => (.malformed, r)
    | some q =>
      let counters := if r.metrics then some r.world.counters else none
      let (a, world) := r.world.perform r.services
        (Server.respond r.relay counters (identifierAt r.identifiers) q)
      (.answered a, { r with world, identifiers := r.identifiers + 1 })
  | .advance seconds => (.nothing, { r with world := r.world.advance r.services seconds })
  | .setStore mode =>
    let s := r.world.outside
    let drill := { s.drill with store := { s.drill.store with mode } }
    (.nothing, { r with world := { r.world with outside := { s with drill } } })
  | .setPager failure =>
    let s := r.world.outside
    let drill := { s.drill with pagerFailure := failure }
    (.nothing, { r with world := { r.world with outside := { s with drill } } })
  | .setReplies script =>
    let s := r.world.outside
    (.nothing,
      { r with world := { r.world with outside := { s with wire := { s.wire with script } } } })

/-- The site without what was kept of earlier steps. -/
def fresh (s : Site) : Site :=
  { s with
    drill := { s.drill with pages := [], store := { s.drill.store with written := [] } }
    wire := { s.wire with requests := [], mails := [] }
    delivered := [] }

/-- Does what a step says and reports on it. -/
def step (r : Running) (s : Step) : Report × Running :=
  let (outcome, r) :=
    perform { r with world := { r.world with outside := r.world.outside.fresh } } s
  let o := r.world.outside
  ({ outcome
     delivered := o.delivered.reverse
     requests := o.wire.requests.reverse
     mails := o.wire.mails.reverse
     written := o.drill.store.written.reverse
     pages := o.drill.pages.reverse }, r)

/-- Goes on with a step, unless a request has no answer: what kept it from one ends the drill. -/
def proceed (r : Running) (s : Step) : Except OnCallError (Report × Running) :=
  let (report, r) := step r s
  match report.outcome with
  | .answered (.error e) => .error e
  | .answered (.ok _) | .malformed | .nothing => .ok (report, r)

/-- A step in which everything is answered goes on. -/
theorem proceed_eq_ok {r : Running} {s : Step}
    (h : ∀ e, (step r s).1.outcome ≠ .answered (.error e)) : proceed r s = .ok (step r s) := by
  simp only [proceed]
  split
  · next e he => exact absurd he (h e)
  all_goals rfl

/-- The keys that are present in the stand-in for the store. -/
def pending (r : Running) : List String :=
  let store := r.world.outside.drill.store
  store.records.keys (store.instant r.world.now)

end Site

end IncidentRelay
