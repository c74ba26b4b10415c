import IncidentRelay.Proofs.Interleaving.Frame
import IncidentRelay.Proofs.Settings.WindowRange

/-!
# Single calls

What one call of an acknowledgment, of a check or of an alert does to a pool whose store works.

## Main statements

* `Pool.call_asking_of_present`, `Pool.call_removing_of_some`: the two calls of an acknowledgment.
* `Pool.call_checking_of_present`, `Pool.call_claiming_of_some`: the first two calls of a check.
* `Pool.call_creating_of_cons`, `Pool.call_creating_of_nil`: an alert goes to one channel after the
  other, and then its record is written and its check is armed.
-/

namespace IncidentRelay

variable {κ : Type}

/-! ### Acknowledgments and checks between their calls -/

/-- What a process goes on with once it has seen a record. -/
def Process.seen {α : Type} : Process κ α → Option (Process κ α)
  | .call (.present _) next => some (next (.ok true))
  | _ => none

namespace Task

/-- An acknowledgment that has not looked for the record yet. -/
def asking (incident : String) : Task κ :=
  ⟨.acknowledge incident, some (Operation.acknowledge incident).process⟩

/-- An acknowledgment that has seen the record. -/
def removing (incident : String) : Task κ :=
  ⟨.acknowledge incident, (Operation.acknowledge incident).process.seen⟩

/-- An acknowledgment that is over. -/
def answered (incident : String) (r : Except OnCallError Unit) : Task κ :=
  ⟨.acknowledge incident, some (.done (.acknowledged r))⟩

/-- A check that has not looked for the record yet. -/
def checking (incident : String) (settings : Settings.OnCall) : Task κ :=
  ⟨.check incident settings, some (Operation.check incident settings).process⟩

/-- A check that has seen the record. -/
def claiming (incident : String) (settings : Settings.OnCall) : Task κ :=
  ⟨.check incident settings, (Operation.check incident settings).process.seen⟩

/-- A check that is over. -/
def checked (incident : String) (settings : Settings.OnCall) : Task κ :=
  ⟨.check incident settings, some (.done .checked)⟩

/-- An acknowledgment that has not asked yet is not one that has seen the record. -/
theorem asking_ne_removing (incident : String) :
    (asking incident : Task κ) ≠ removing incident := by
  intro h
  cases congrArg Task.left h

/-- A check is not an acknowledgment that has seen the record. -/
theorem checking_ne_removing (incident : String) (settings : Settings.OnCall) :
    (checking incident settings : Task κ) ≠ removing incident := by
  intro h
  cases congrArg Task.operation h

end Task

namespace Pool

variable {p : Pool κ} {n : Nat} {incident : String} {f : Fortune}

/-- A call with its answer and what follows at once. -/
theorem call_of_answer {op : Operation κ} {c : Call κ} {next : c.Reply → Process κ Answer}
    (hn : p.tasks[n]? = some ⟨op, some (.call c next)⟩) {r : c.Reply} {w w' : World Memory}
    {left : Process κ Answer} (ha : World.answer f.services c p.world = (r, w))
    (hl : (next r).settle w = (left, w')) :
    p.call n f =
      { world := w', tasks := p.tasks.set n ⟨op, some left⟩
        log := p.log ++ (Mark.ofCall n op p.world.now c r ++ Mark.ofEnd n op left) } := by
  rw [call_of_next hn]
  simp only [ha, hl]

/-- A store that works tells whether the record is there. -/
theorem answer_present (hf : f.fault = none) (w : World Memory) (key : String) :
    World.answer (κ := κ) f.services (.present key) w =
      (.ok (w.outside.present (w.now * 1000) key), w) := by
  simp [World.answer, Fortune.services, hf]

/-- A store that works removes the record and tells whether it held one. -/
theorem answer_remove (hf : f.fault = none) (w : World Memory) (key : String) :
    World.answer (κ := κ) f.services (.remove key) w =
      (.ok (w.outside.get? key).isSome, { w with outside := w.outside.erase key }) := by
  simp [World.answer, Fortune.services, hf, Memory.remove]

/-- The acknowledgment sees the record. -/
theorem call_asking_of_present (hn : p.tasks[n]? = some (.asking incident)) (hf : f.fault = none)
    (hp : p.world.outside.present (p.world.now * 1000) incident = true) :
    p.call n f = { p with tasks := p.tasks.set n (.removing incident) } := by
  have ha := answer_present (κ := κ) hf p.world incident
  rw [hp] at ha
  rw [call_of_answer hn ha rfl]
  exact congrArg _ (List.append_nil p.log)

/-- The acknowledgment sees no record, and is refused. -/
theorem call_asking_of_absent (hn : p.tasks[n]? = some (.asking incident)) (hf : f.fault = none)
    (hp : p.world.outside.present (p.world.now * 1000) incident = false) :
    p.call n f =
      { p with
        world := { p.world with counters := p.world.counters.increment .notFound }
        tasks := p.tasks.set n (.answered incident (.error (.notFound incident))) } := by
  have ha := answer_present (κ := κ) hf p.world incident
  rw [hp] at ha
  rw [call_of_answer hn ha rfl]
  exact congrArg _ (List.append_nil p.log)

/-- The acknowledgment removes the record. -/
theorem call_removing_of_some (hn : p.tasks[n]? = some (.removing incident)) (hf : f.fault = none)
    (hp : (p.world.outside.get? incident).isSome = true) :
    p.call n f =
      { world :=
          { p.world with
            outside := p.world.outside.erase incident
            counters := p.world.counters.increment .acknowledged }
        tasks := p.tasks.set n (.answered incident (.ok ()))
        log := p.log ++ [.claimed incident n, .acknowledged incident n] } := by
  have ha := answer_remove (κ := κ) hf p.world incident
  rw [hp] at ha
  rw [call_of_answer hn ha rfl]
  rfl

/-- The acknowledgment comes too late to remove the record, and is refused. -/
theorem call_removing_of_none (hn : p.tasks[n]? = some (.removing incident)) (hf : f.fault = none)
    (hp : p.world.outside.get? incident = none) :
    p.call n f =
      { p with
        world :=
          { p.world with
            outside := p.world.outside.erase incident
            counters := p.world.counters.increment .notFound }
        tasks := p.tasks.set n (.answered incident (.error (.notFound incident))) } := by
  have ha := answer_remove (κ := κ) hf p.world incident
  rw [hp, Option.isSome_none] at ha
  rw [call_of_answer hn ha rfl]
  exact congrArg _ (List.append_nil p.log)

/-- The check sees the record. -/
theorem call_checking_of_present {settings : Settings.OnCall}
    (hn : p.tasks[n]? = some (.checking incident settings)) (hf : f.fault = none)
    (hp : p.world.outside.present (p.world.now * 1000) incident = true) :
    p.call n f = { p with tasks := p.tasks.set n (.claiming incident settings) } := by
  have ha := answer_present (κ := κ) hf p.world incident
  rw [hp] at ha
  rw [call_of_answer hn ha rfl]
  exact congrArg _ (List.append_nil p.log)

/-- The check finds nothing. -/
theorem call_checking_of_absent {settings : Settings.OnCall}
    (hn : p.tasks[n]? = some (.checking incident settings)) (hf : f.fault = none)
    (hp : p.world.outside.present (p.world.now * 1000) incident = false) :
    p.call n f = { p with tasks := p.tasks.set n (.checked incident settings) } := by
  have ha := answer_present (κ := κ) hf p.world incident
  rw [hp] at ha
  rw [call_of_answer hn ha rfl]
  exact congrArg _ (List.append_nil p.log)

/-- The check removes the record, and has to page now. -/
theorem call_claiming_of_some {settings : Settings.OnCall}
    (hn : p.tasks[n]? = some (.claiming incident settings)) (hf : f.fault = none)
    (hp : (p.world.outside.get? incident).isSome = true) :
    .claimed incident n ∈ (p.call n f).log := by
  have ha := answer_remove (κ := κ) hf p.world incident
  rw [hp] at ha
  rw [call_of_answer hn ha rfl]
  exact List.mem_append_right _ List.mem_cons_self

/-- The check comes too late to remove the record. -/
theorem call_claiming_of_none {settings : Settings.OnCall}
    (hn : p.tasks[n]? = some (.claiming incident settings)) (hf : f.fault = none)
    (hp : p.world.outside.get? incident = none) :
    p.call n f =
      { p with
        world := { p.world with outside := p.world.outside.erase incident }
        tasks := p.tasks.set n (.checked incident settings) } := by
  have ha := answer_remove (κ := κ) hf p.world incident
  rw [hp, Option.isSome_none] at ha
  rw [call_of_answer hn ha rfl]
  exact congrArg _ (List.append_nil p.log)

end Pool

/-! ### An alert on its way -/

/-- An alert that has to be acknowledged: it goes to these channels, and then its escalation starts
with a window. The settings of the service passed the check on loading. -/
structure Relay.Escalates (r : Relay κ) (incident team : String) (content : Content)
    (params : Params) (channels : List κ) : Prop where
  channels : r.channels (r.settingsFor params) = .ok channels
  workflow : r.workflow = true
  escalates : Relay.escalates (r.settingsFor params) (Incident.create incident team content) = true
  wait_ne_zero : (r.settingsFor params).onCall.wait ≠ 0
  waitMinutes_le : r.settings.onCall.waitMinutes ≤ maxWaitMinutes

/-- The window of an alert fits, whatever the parameters of its request ask for. -/
theorem Relay.Escalates.wait_le {r : Relay κ} {incident team : String} {content : Content}
    {params : Params} {channels : List κ} (h : r.Escalates incident team content params channels) :
    (r.settingsFor params).onCall.wait + recordGrace ≤ maxWord := by
  rw [r.settingsFor_eq params]
  exact Settings.OnCall.record_fits (Settings.withOverrides_waitMinutes_le h.waitMinutes_le params)

/-- What is left of an alert that has still to go to some channels. -/
def Relay.remaining (r : Relay κ) (s : Settings) (i : Incident) (channels : List κ) :
    Process κ Answer :=
  ((dispatch r.name i channels).bind fun
    | .error e => .done (.error (.dispatch e))
    | .ok () => r.escalate s i).bind fun a => .done (.created a)

/-- The last thing that an alert does is to write the record and to arm the check. -/
theorem Relay.remaining_nil {r : Relay κ} {incident team : String} {content : Content}
    {params : Params} {channels : List κ} (h : r.Escalates incident team content params channels) :
    let s := r.settingsFor params
    let i := Relay.announced s (Incident.create incident team content)
    ∃ next, r.remaining s i [] =
        .call (.put incident pendingMarker (s.onCall.wait + recordGrace)) next ∧
      next (.ok ()) = .call (.arm incident s.onCall s.onCall.wait) fun _ =>
        .done (.created (.ok i)) := by
  intro s i
  have hi : Relay.escalates s i = true := by
    rw [Relay.escalates_announced]
    exact h.escalates
  have hid : i.id = incident := Relay.id_announced s _
  obtain ⟨next, hstart, hok⟩ :=
    Escalation.start_of_window (κ := κ) h.wait_ne_zero h.wait_le incident
  simp only [Relay.remaining, dispatch, Process.bind, Relay.escalate, hi, h.workflow, if_true, hid]
  rw [hstart]
  exact ⟨_, rfl, by dsimp only; rw [hok]; rfl⟩

/-- An alert that has still to go to some channels. -/
def Task.creating (r : Relay κ) (incident team : String) (content : Content) (params : Params)
    (left : List κ) : Task κ :=
  let s := r.settingsFor params
  ⟨.create r incident team content params,
    some (r.remaining s (Relay.announced s (Incident.create incident team content)) left)⟩

/-- Nothing is done at once before the next channel or the write. -/
theorem Relay.settle_remaining {r : Relay κ} {incident team : String} {content : Content}
    {params : Params} {channels : List κ} (h : r.Escalates incident team content params channels)
    (left : List κ) (w : World Memory) :
    let s := r.settingsFor params
    let p := r.remaining s (Relay.announced s (Incident.create incident team content)) left
    p.settle w = (p, w) := by
  intro s p
  cases left with
  | nil =>
      obtain ⟨next, hp, -⟩ := Relay.remaining_nil h
      simp only [p, s, hp]
      rfl
  | cons c rest => rfl

namespace Pool

variable {p : Pool κ} {n : Nat} {incident team : String} {content : Content} {params : Params}
  {r : Relay κ} {channels : List κ} {f : Fortune}

/-- A channel takes the incident. -/
theorem call_creating_of_cons (h : r.Escalates incident team content params channels) {c : κ}
    {rest : List κ}
    (hn : p.tasks[n]? = some (.creating r incident team content params (c :: rest)))
    (hf : f.channel = .ok ()) :
    let i := Relay.announced (r.settingsFor params) (Incident.create incident team content)
    p.call n f =
      { world := { p.world with counters := p.world.counters.increment (.sent (r.name c)) }
        tasks := p.tasks.set n (.creating r incident team content params rest)
        log := p.log ++ [.delivered i.id i.ackUrl?] } := by
  intro i
  have ha : World.answer f.services (.send c i) p.world = (.ok (), p.world) := by
    simp [World.answer, Fortune.services, hf]
  rw [call_of_answer hn ha (Relay.settle_remaining h rest _)]
  rfl

/-- The record is written and the check armed. -/
theorem call_creating_of_nil (h : r.Escalates incident team content params channels)
    (hn : p.tasks[n]? = some (.creating r incident team content params []))
    (hf : f.fault = none) :
    let s := (r.settingsFor params).onCall
    let i := Relay.announced (r.settingsFor params) (Incident.create incident team content)
    p.call n f =
      { world :=
          { p.world with
            outside := p.world.outside.put (p.world.now * 1000) incident pendingMarker
              ((s.wait + recordGrace) * 1000)
            armed := Armed.insertInto ⟨p.world.now + s.wait, incident, s⟩ p.world.armed }
        tasks := p.tasks.set n
          ⟨.create r incident team content params, some (.done (.created (.ok i)))⟩
        log := p.log ++ [.stored incident p.world.now] } := by
  intro s i
  obtain ⟨next, hp, hok⟩ := Relay.remaining_nil h
  have ha : World.answer (κ := κ) f.services
      (.put incident pendingMarker (s.wait + recordGrace)) p.world =
        (.ok (), { p.world with
          outside := p.world.outside.put (p.world.now * 1000) incident pendingMarker
            ((s.wait + recordGrace) * 1000) }) := by
    simp [World.answer, Fortune.services, hf]
  rw [Task.creating, hp] at hn
  rw [call_of_answer hn ha (by rw [hok])]
  rfl

end Pool

end IncidentRelay
