import IncidentRelay.Drill.Workflow
import IncidentRelay.Proofs.Calls

/-!
# The lane of an incident

What of a drill's world is about one incident: its record, its armed checks and its pages. Other
incidents have lanes of their own, and nothing that happens in one changes another. On a clock over
a store that works and lets records run out, each operation does one thing to the lane of its own
incident.

## Main statements

* `Drill.lane_perform`: what is not about an incident leaves its lane alone.
* `Drill.lane_start`, `Drill.lane_acknowledge_of_live`, `Drill.lane_runCheck_of_live`: what the
  operations do to their lanes.
* `Drill.lane_advance_of_due`: the check pages at its instant if the record is there.
-/

namespace IncidentRelay

namespace Drill

/-- What of a world is about one incident. -/
structure Lane where
  record : Option Memory.Record
  armed : List Armed
  /-- The pages since the last step began, last first. -/
  pages : List Page

/-- The lane of an incident. -/
def lane (incident : String) (w : World Drill) : Lane where
  record := w.outside.store.records.get? incident
  armed := w.armed.filter (·.incident = incident)
  pages := w.outside.pages.filter (·.incident = incident)

/-- A world whose store works and lets records run out, with its armed checks in order. -/
structure Steady (w : World Drill) : Prop where
  healthy : w.outside.store.mode = .healthy
  expiring : w.outside.store.expiring = true
  sorted : Armed.Sorted w.armed

variable {incident : String} {w : World Drill} {α : Type}

/-! ### What is not about the incident -/

/-- A call that avoids an incident leaves its lane. -/
theorem lane_answer {c : Call Empty} (h : c.Avoids incident) (w : World Drill) :
    lane incident (World.answer services c w).2 = lane incident w := by
  cases c with
  | put key marker ttl =>
      have hkey : key ≠ incident := h
      simp only [World.answer, services, DrillStore.put]
      split <;> simp [lane, Memory.put_eq, Table.get?_insert, hkey]
  | present key =>
      simp only [World.answer, services, DrillStore.present]
      split <;> rfl
  | remove key =>
      have hkey : key ≠ incident := h
      simp only [World.answer, services, DrillStore.remove]
      split <;> simp [lane, Memory.remove, Table.get?_erase, hkey]
  | page i settings =>
      have hi : i ≠ incident := h
      simp only [World.answer, services]
      split <;> simp [lane, hi]
  | arm i settings after =>
      have hi : i ≠ incident := h
      simp only [World.answer, lane]
      rw [Armed.filter_insertInto _ _ _ (by simpa using hi)]
  | count event => rfl
  | send channel i => exact channel.elim

/-- What is not about an incident leaves its lane alone. -/
theorem lane_perform {p : Process Empty α} (h : p.Every (Call.Avoids incident))
    (w : World Drill) : lane incident (w.perform services p).2 = lane incident w :=
  World.perform_keeps (I := fun v => lane incident v = lane incident w)
    (fun _ v hc hv => (lane_answer hc v).trans hv) h rfl

/-- Starting another incident leaves the lane. -/
theorem lane_start_of_ne {i : String} (hi : i ≠ incident) (settings : Settings.OnCall)
    (w : World Drill) :
    lane incident (w.perform services (Escalation.start i settings)).2 = lane incident w :=
  lane_perform (Escalation.start_every (fun _ _ => hi) hi (fun _ => hi) fun _ => trivial) w

/-- Acknowledging another incident leaves the lane. -/
theorem lane_acknowledge_of_ne {i : String} (hi : i ≠ incident) (w : World Drill) :
    lane incident (w.perform services (Escalation.acknowledge i)).2 = lane incident w :=
  lane_perform (Escalation.acknowledge_every trivial hi fun _ => trivial) w

/-- The check of another incident leaves the lane. -/
theorem lane_runCheck_of_ne {a : Armed} (ha : a.incident ≠ incident) (w : World Drill) :
    lane incident (World.runCheck services w a) = lane incident w :=
  lane_perform (Escalation.check_every trivial ha ha fun _ => trivial) { w with now := a.due }

/-- A world stays steady, whatever is called. -/
theorem Steady.answer (h : Steady w) (c : Call Empty) :
    Steady (World.answer services c w).2 := by
  cases c with
  | put key marker ttl =>
      simp only [World.answer, services, DrillStore.put]
      split <;> exact ⟨h.healthy, h.expiring, h.sorted⟩
  | present key =>
      simp only [World.answer, services, DrillStore.present]
      split <;> exact ⟨h.healthy, h.expiring, h.sorted⟩
  | remove key =>
      simp only [World.answer, services, DrillStore.remove]
      split <;> exact ⟨h.healthy, h.expiring, h.sorted⟩
  | page i settings =>
      simp only [World.answer, services]
      split <;> exact ⟨h.healthy, h.expiring, h.sorted⟩
  | arm i settings after => exact ⟨h.healthy, h.expiring, h.sorted.insertInto _⟩
  | count event => exact ⟨h.healthy, h.expiring, h.sorted⟩
  | send channel i => exact channel.elim

/-- A world stays steady, whatever a process calls. -/
theorem Steady.perform (h : Steady w) (p : Process Empty α) :
    Steady (w.perform services p).2 :=
  World.perform_keeps (P := fun _ => True) (fun c _ _ hv => hv.answer c)
    (p.every_of_forall fun _ => trivial) h

/-- A steady world is steady at every instant. -/
theorem Steady.setNow (h : Steady w) (now : Nat) : Steady { w with now } :=
  ⟨h.healthy, h.expiring, h.sorted⟩

/-- A world stays steady when the checks that fall due are taken out. -/
theorem Steady.takeDue (h : Steady w) (t : Nat) :
    Steady { w with armed := w.armed.dropWhile (·.due ≤ t) } :=
  ⟨h.healthy, h.expiring, h.sorted.sublist (List.dropWhile_sublist _)⟩

/-- The check of a steady world leaves it steady. -/
theorem Steady.runCheck (h : Steady w) (a : Armed) : Steady (World.runCheck services w a) :=
  (h.setNow a.due).perform _

/-- Checks leave a steady world steady. -/
theorem Steady.foldl (h : Steady w) (l : List Armed) :
    Steady (l.foldl (World.runCheck services) w) := by
  induction l generalizing w with
  | nil => exact h
  | cons a rest ih => exact ih (h.runCheck a)

/-- Time leaves a steady world steady. -/
theorem Steady.advance (h : Steady w) (seconds : Nat) :
    Steady (w.advance services seconds) := by
  have hfold := (h.takeDue (w.now + seconds)).foldl (w.armed.takeWhile (·.due ≤ w.now + seconds))
  exact ⟨hfold.healthy, hfold.expiring, hfold.sorted⟩

/-! ### What is about the incident -/

/-- The store of a steady world goes by the clock, in milliseconds. -/
theorem Steady.instant (h : Steady w) (now : Nat) : w.outside.store.instant now = now * 1000 := by
  simp [DrillStore.instant, h.expiring]

/-- In a steady world a look for a record tells whether it is there. -/
theorem answer_present (h : Steady w) (key : String) :
    World.answer services (.present key) w =
      (.ok (w.outside.store.records.present (w.now * 1000) key), w) := by
  simp [World.answer, services, DrillStore.present, h.healthy, h.instant]

/-- In a steady world a removal tells whether there was a record, run out or not. -/
theorem answer_remove (h : Steady w) (key : String) :
    World.answer services (.remove key) w =
      (.ok (w.outside.store.records.get? key).isSome,
        { w with outside := { w.outside with store :=
          { w.outside.store with records := w.outside.store.records.erase key } } }) := by
  simp [World.answer, services, DrillStore.remove, Memory.remove, h.healthy]

/-- In a steady world a write succeeds. -/
theorem answer_put (h : Steady w) (key marker : String) (ttl : Nat) :
    World.answer services (.put key marker ttl) w =
      (.ok (), { w with outside := { w.outside with store :=
        { w.outside.store with
          records := w.outside.store.records.put (w.now * 1000) key marker (ttl * 1000)
          written := ⟨key, marker, ttl⟩ :: w.outside.store.written } } }) := by
  simp [World.answer, services, DrillStore.put, h.healthy, h.instant]

/-- Without a record in its lane an incident is not seen. -/
theorem present_of_none (hr : (lane incident w).record = none) (now : Nat) :
    w.outside.store.records.present now incident = false := by
  have hr : w.outside.store.records.get? incident = none := hr
  simp [Memory.present, hr]

/-- An incident is seen as long as the record in its lane lives. -/
theorem present_of_some {r : Memory.Record} (hr : (lane incident w).record = some r) {now : Nat}
    (hlive : Memory.isBefore now r.deadline = true) :
    w.outside.store.records.present now incident = true := by
  have hr : w.outside.store.records.get? incident = some r := hr
  simp [Memory.present, hr, hlive]

/-- Without a record there is nothing to acknowledge. -/
theorem lane_acknowledge_of_none (h : Steady w) (hr : (lane incident w).record = none) :
    (w.perform services (Escalation.acknowledge incident)).1 = .error (.notFound incident) ∧
      lane incident (w.perform services (Escalation.acknowledge incident)).2 =
        lane incident w := by
  have ha := answer_present h incident
  rw [present_of_none hr] at ha
  unfold Escalation.acknowledge
  rw [World.perform_call ha]
  exact ⟨rfl, rfl⟩

/-- An acknowledgment removes the record. -/
theorem lane_acknowledge_of_live (h : Steady w) {r : Memory.Record}
    (hr : (lane incident w).record = some r)
    (hlive : Memory.isBefore (w.now * 1000) r.deadline = true) :
    (w.perform services (Escalation.acknowledge incident)).1 = .ok () ∧
      lane incident (w.perform services (Escalation.acknowledge incident)).2 =
        { lane incident w with record := none } := by
  have ha := answer_present h incident
  rw [present_of_some hr hlive] at ha
  have hrecord : w.outside.store.records.get? incident = some r := hr
  have hb := answer_remove h incident
  rw [hrecord, Option.isSome_some] at hb
  unfold Escalation.acknowledge
  rw [World.perform_call ha, World.perform_call hb]
  exact ⟨rfl, by simp [lane, World.perform, Process.run, World.answer, Table.get?_erase]⟩

/-- Starting with a window writes the record and arms the check. -/
theorem lane_start (h : Steady w) {settings : Settings.OnCall} (hwait : settings.wait ≠ 0)
    (hle : settings.wait + recordGrace ≤ maxWord) (harmed : (lane incident w).armed = []) :
    let started := w.perform services (Escalation.start incident settings)
    started.1 = .ok (.pending settings.wait) ∧
      lane incident started.2 =
        ⟨some ⟨pendingMarker, some (w.now * 1000 + (settings.wait + recordGrace) * 1000)⟩,
          [⟨w.now + settings.wait, incident, settings⟩], (lane incident w).pages⟩ ∧
      started.2.outside.store.written =
        ⟨incident, pendingMarker, settings.wait + recordGrace⟩ :: w.outside.store.written := by
  obtain ⟨next, hstart, hok⟩ := Escalation.start_of_window (κ := Empty) hwait hle incident
  have ha := answer_put h incident pendingMarker (settings.wait + recordGrace)
  have harmed : w.armed.filter (·.incident = incident) = [] := harmed
  rw [hstart, World.perform_call ha, hok]
  refine ⟨rfl, ?_, rfl⟩
  simp [lane, World.perform, Process.run, World.answer, Memory.put_eq, Table.get?_insert,
    Armed.filter_insertInto_of_none, harmed]

/-- A record that is not there is not seen, whatever the store was told. -/
theorem answer_present_of_none (hr : (lane incident w).record = none) :
    ∃ r, World.answer services (.present incident) w = (r, w) ∧ r ≠ .ok true := by
  have hpresent : (services.present w.now incident w.outside).1 ≠ .ok true := by
    simp only [services, DrillStore.present, present_of_none hr]
    split <;> simp
  refine ⟨_, ?_, hpresent⟩
  simp only [World.answer, services, DrillStore.present]
  split <;> rfl

/-- Without a record a check does nothing. -/
theorem lane_runCheck_of_none (hr : (lane incident w).record = none) (a : Armed) :
    lane incident (World.runCheck services w a) = lane incident w := by
  by_cases ha : a.incident = incident
  · obtain ⟨r, hp, hne⟩ := answer_present_of_none (w := { w with now := a.due }) hr
    unfold World.runCheck Escalation.check
    rw [ha, World.perform_call hp]
    match r with
    | .error e | .ok false => rfl
    | .ok true => exact absurd rfl hne
  · exact lane_runCheck_of_ne ha w

/-- A page of a check is made, whatever the pager answers. -/
theorem lane_page (incident : String) (settings : Settings.OnCall) (w : World Drill) :
    lane incident (w.perform services
        ((Escalation.page .deferred incident settings).bind fun _ => .done ())).2 =
      { lane incident w with
        pages := ⟨w.now, incident, settings⟩ :: (lane incident w).pages } := by
  unfold Escalation.page
  simp only [World.perform, Process.bind, Process.run, World.answer, services]
  cases w.outside.pagerFailure <;> simp [lane, Process.run, Process.bind, World.answer]

/-- A check that finds the record removes it and pages, whatever the pager answers. -/
theorem lane_runCheck_of_live (h : Steady w) {a : Armed} (ha : a.incident = incident)
    {r : Memory.Record} (hr : (lane incident w).record = some r)
    (hlive : Memory.isBefore (a.due * 1000) r.deadline = true) :
    lane incident (World.runCheck services w a) =
      ⟨none, (lane incident w).armed,
        ⟨a.due, incident, a.settings⟩ :: (lane incident w).pages⟩ := by
  have hs := h.setNow a.due
  have hp := answer_present hs incident
  rw [present_of_some (w := { w with now := a.due }) hr hlive] at hp
  have hrecord : w.outside.store.records.get? incident = some r := hr
  have hm := answer_remove hs incident
  simp only [hrecord, Option.isSome_some] at hm
  unfold World.runCheck Escalation.check
  rw [ha, World.perform_call hp, World.perform_call hm]
  refine (lane_page incident a.settings _).trans ?_
  simp [lane, Table.get?_erase]

/-- The checks of other incidents leave the lane. -/
theorem lane_foldl_of_ne (l : List Armed) (hl : ∀ a ∈ l, a.incident ≠ incident) (w : World Drill) :
    lane incident (l.foldl (World.runCheck services) w) = lane incident w := by
  induction l generalizing w with
  | nil => rfl
  | cons a rest ih =>
      rw [List.foldl_cons, ih (fun b hb => hl b (List.mem_cons_of_mem a hb)),
        lane_runCheck_of_ne (hl a List.mem_cons_self)]

/-- Without a record, checks leave the lane. -/
theorem lane_foldl_of_none (hr : (lane incident w).record = none) (l : List Armed) :
    lane incident (l.foldl (World.runCheck services) w) = lane incident w := by
  induction l generalizing w with
  | nil => rfl
  | cons a rest ih =>
      have ha := lane_runCheck_of_none hr a
      rw [List.foldl_cons, ih (by rw [ha, hr]), ha]

/-! ### The clock -/

/-- Without a record nothing happens in a lane while time passes. -/
theorem lane_advance_of_none (hr : (lane incident w).record = none) (seconds : Nat) :
    let after := lane incident (w.advance services seconds)
    after.record = none ∧ after.pages = (lane incident w).pages ∧
      after.armed.Sublist (lane incident w).armed := by
  let w' : World Drill := { w with armed := w.armed.dropWhile (·.due ≤ w.now + seconds) }
  have hfold : lane incident ((w.armed.takeWhile (·.due ≤ w.now + seconds)).foldl
      (World.runCheck services) w') = lane incident w' := lane_foldl_of_none (w := w') hr _
  have hrecord := (congrArg Lane.record hfold).trans hr
  have hpages := congrArg Lane.pages hfold
  have harmed := congrArg Lane.armed hfold
  have hsub : (lane incident w').armed.Sublist (lane incident w).armed :=
    (List.dropWhile_sublist _).filter _
  rw [← harmed] at hsub
  exact ⟨hrecord, hpages, hsub⟩

/-- As long as its check is not due nothing happens in a lane. -/
theorem lane_advance_of_later {x : Armed} (hx : (lane incident w).armed = [x]) {seconds : Nat}
    (hlater : w.now + seconds < x.due) :
    lane incident (w.advance services seconds) = lane incident w := by
  have hx : w.armed.filter (·.incident = incident) = [x] := hx
  have split := List.takeWhile_append_dropWhile (p := fun a : Armed => a.due ≤ w.now + seconds)
    (l := w.armed)
  have hdue : ∀ a ∈ w.armed.takeWhile (·.due ≤ w.now + seconds), a.incident ≠ incident := by
    intro a ha hi
    have hmem : a ∈ w.armed.filter (·.incident = incident) :=
      List.mem_filter.mpr ⟨(List.takeWhile_prefix _).subset ha, by simpa using hi⟩
    obtain rfl : a = x := by simpa [hx] using hmem
    have hle : a.due ≤ w.now + seconds := by simpa using List.mem_takeWhile_imp ha
    omega
  have hrest : (w.armed.dropWhile (·.due ≤ w.now + seconds)).filter (·.incident = incident) =
      w.armed.filter (·.incident = incident) := by
    have hfilter := congrArg (List.filter fun a => decide (a.incident = incident)) split
    rwa [List.filter_append, List.filter_eq_nil_iff.mpr (by simpa using hdue), List.nil_append]
      at hfilter
  have hfold := lane_foldl_of_ne _ hdue
    { w with armed := w.armed.dropWhile (·.due ≤ w.now + seconds) }
  refine hfold.trans ?_
  simp only [lane, hrest]

/-- A check that falls due pages at its instant if the record is there. -/
theorem lane_advance_of_due (h : Steady w) {x : Armed} (hx : (lane incident w).armed = [x])
    {seconds : Nat} (hdue : x.due ≤ w.now + seconds) {r : Memory.Record}
    (hr : (lane incident w).record = some r)
    (hlive : Memory.isBefore (x.due * 1000) r.deadline = true) :
    lane incident (w.advance services seconds) =
      ⟨none, [], ⟨x.due, incident, x.settings⟩ :: (lane incident w).pages⟩ := by
  have hx : w.armed.filter (·.incident = incident) = [x] := hx
  have split := List.takeWhile_append_dropWhile (p := fun a : Armed => a.due ≤ w.now + seconds)
    (l := w.armed)
  let w' : World Drill := { w with armed := w.armed.dropWhile (·.due ≤ w.now + seconds) }
  have hw' : Steady w' := h.takeDue (w.now + seconds)
  have hrest : (lane incident w').armed = [] := by
    refine List.filter_eq_nil_iff.mpr ?_
    intro a ha hi
    have hmem : a ∈ w.armed.filter (·.incident = incident) :=
      List.mem_filter.mpr ⟨(List.dropWhile_suffix _).subset ha, hi⟩
    obtain rfl : a = x := by simpa [hx] using hmem
    have := h.sorted.lt_of_mem_dropWhile ha
    omega
  have hfirst : (w.armed.takeWhile (·.due ≤ w.now + seconds)).filter (·.incident = incident) =
      [x] := by
    have hfilter := congrArg (List.filter fun a => decide (a.incident = incident)) split
    rwa [List.filter_append, show List.filter _ (List.dropWhile _ w.armed) = [] from hrest,
      List.append_nil, hx] at hfilter
  obtain ⟨front, back, hlist, hfront, hxi, hback⟩ := List.filter_eq_cons_iff.mp hfirst
  have hxi : x.incident = incident := by simpa using hxi
  have h₁ : lane incident (front.foldl (World.runCheck services) w') = lane incident w' :=
    lane_foldl_of_ne front (by simpa using hfront) w'
  have hs := hw'.foldl front
  have h₂ := lane_runCheck_of_live hs hxi ((congrArg Lane.record h₁).trans hr) hlive
  have h₃ := lane_foldl_of_ne back (by simpa using List.filter_eq_nil_iff.mp hback)
    (World.runCheck services (front.foldl (World.runCheck services) w') x)
  have hfold : lane incident ((w.armed.takeWhile (·.due ≤ w.now + seconds)).foldl
      (World.runCheck services) w') =
        ⟨none, [], ⟨x.due, incident, x.settings⟩ :: (lane incident w).pages⟩ := by
    rw [hlist, List.foldl_append, List.foldl_cons, h₃, h₂, h₁, hrest]
    rfl
  exact hfold

end Drill

end IncidentRelay
