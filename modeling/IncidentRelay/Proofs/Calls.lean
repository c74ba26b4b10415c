import IncidentRelay.Escalation.World
import IncidentRelay.Relay
import Mathlib.Data.List.TakeWhile

/-!
# The calls of the operations

Which calls an operation can make at all, whatever it is answered.

## Main statements

* `Escalation.start_every`, `Escalation.acknowledge_every`, `Escalation.check_every`,
  `dispatch_every`, `Relay.createIncident_every`: what is true of the calls that they can make is
  true of all calls they make.
* `Armed.Sorted.insertInto`: armed checks stay in the order of their instants.
* `World.perform_keeps`: what single calls keep is kept by whole operations.
* `World.now_perform`: an operation takes no time.
-/

namespace IncidentRelay

variable {κ α β : Type}

/-- Every call of a process is of a kind, whatever its calls are answered. -/
def Process.Every (P : Call κ → Prop) : Process κ α → Prop
  | .done _ => True
  | .call c next => P c ∧ ∀ r, (next r).Every P

/-- A call that has nothing to do with an incident. -/
def Call.Avoids (incident : String) : Call κ → Prop
  | .put key _ _ | .remove key | .page key _ | .arm key _ _ => key ≠ incident
  | .present _ | .send .. | .count _ => True

variable {P : Call κ → Prop}

/-- What holds of every call holds of the calls of every process. -/
theorem Process.every_of_forall (h : ∀ c, P c) (p : Process κ α) : p.Every P := by
  induction p with
  | done a => trivial
  | call c next ih => exact ⟨h c, ih⟩

/-- A weaker property of calls holds of a process as well. -/
theorem Process.Every.mono {Q : Call κ → Prop} {p : Process κ α} (hp : p.Every P)
    (h : ∀ c, P c → Q c) : p.Every Q := by
  induction p with
  | done a => trivial
  | call c next ih => exact ⟨h c hp.1, fun r => ih r (hp.2 r)⟩

/-- Two processes one after the other make the calls of both. -/
theorem Process.Every.bind {p : Process κ α} {f : α → Process κ β} (hp : p.Every P)
    (hf : ∀ a, (f a).Every P) : (p.bind f).Every P := by
  induction p with
  | done a => exact hf a
  | call c next ih => exact ⟨hp.1, fun r => ih r (hp.2 r)⟩

variable {incident : String} {settings : Settings.OnCall}

namespace Escalation

/-- The calls of a page. -/
theorem page_every {path : PagePath} (hpage : P (.page incident settings))
    (hcount : ∀ event, P (.count event)) : (page path incident settings).Every P := by
  refine ⟨hpage, ?_⟩
  intro r
  cases r <;> exact ⟨hcount _, fun _ => trivial⟩

/-- With a window, starting an escalation writes and arms. -/
theorem start_every_of_window (hwait : settings.wait ≠ 0)
    (hput : ∀ marker ttl, P (.put incident marker ttl))
    (harm : ∀ after, P (.arm incident settings after)) : (start incident settings).Every P := by
  unfold start
  dsimp only
  rw [if_neg hwait]
  split
  · trivial
  · refine ⟨hput _ _, ?_⟩
    intro r
    cases r with
    | error e => trivial
    | ok u => exact ⟨harm _, fun _ => trivial⟩

/-- Starting an escalation writes, pages, arms and counts. -/
theorem start_every (hput : ∀ marker ttl, P (.put incident marker ttl))
    (hpage : P (.page incident settings)) (harm : ∀ after, P (.arm incident settings after))
    (hcount : ∀ event, P (.count event)) : (start incident settings).Every P := by
  by_cases hwait : settings.wait = 0
  · rw [start_of_wait_zero hwait]
    refine (page_every hpage hcount).bind ?_
    intro r
    cases r <;> trivial
  · exact start_every_of_window hwait hput harm

/-- With a window, starting an escalation writes the record and then arms the check. -/
theorem start_of_window (hwait : settings.wait ≠ 0) (hle : settings.wait + recordGrace ≤ maxWord)
    (incident : String) :
    ∃ next, start (κ := κ) incident settings =
        .call (.put incident pendingMarker (settings.wait + recordGrace)) next ∧
      next (.ok ()) = .call (.arm incident settings settings.wait) fun _ =>
        .done (.ok (.pending settings.wait)) := by
  unfold start
  dsimp only
  rw [if_neg hwait, if_neg (Nat.not_lt.mpr hle)]
  exact ⟨_, rfl, rfl⟩

/-- A window that is too long is refused before anything is called. -/
theorem start_of_overflow (h : maxWord < settings.wait + recordGrace) (incident : String) :
    start (κ := κ) incident settings = .done (.error .windowOverflow) := by
  have hwait : settings.wait ≠ 0 := by
    intro hzero
    rw [hzero] at h
    exact absurd h (by decide)
  unfold start
  dsimp only
  rw [if_neg hwait, if_pos h]

/-- An acknowledgment looks for the record, removes it and counts. -/
theorem acknowledge_every (hpresent : P (.present incident)) (hremove : P (.remove incident))
    (hcount : ∀ event, P (.count event)) : (acknowledge incident).Every P := by
  refine ⟨hpresent, ?_⟩
  intro r
  match r with
  | .error e => trivial
  | .ok false => exact ⟨hcount _, fun _ => trivial⟩
  | .ok true =>
      refine ⟨hremove, ?_⟩
      intro r
      match r with
      | .error e => trivial
      | .ok false | .ok true => exact ⟨hcount _, fun _ => trivial⟩

/-- A check looks for the record, removes it, pages and counts. -/
theorem check_every (hpresent : P (.present incident)) (hremove : P (.remove incident))
    (hpage : P (.page incident settings)) (hcount : ∀ event, P (.count event)) :
    (check incident settings).Every P := by
  refine ⟨hpresent, ?_⟩
  intro r
  match r with
  | .error e | .ok false => trivial
  | .ok true =>
      refine ⟨hremove, ?_⟩
      intro r
      match r with
      | .error e | .ok false => trivial
      | .ok true => exact (page_every hpage hcount).bind fun _ => trivial

end Escalation

/-- A dispatch hands out the incident and counts. -/
theorem dispatch_every {i : Incident} (hsend : ∀ channel, P (.send channel i))
    (hcount : ∀ event, P (.count event)) (name : κ → String) (channels : List κ) :
    (dispatch name i channels).Every P := by
  induction channels with
  | nil => trivial
  | cons c rest ih =>
      refine ⟨hsend c, ?_⟩
      intro r
      cases r with
      | error e => exact ⟨hcount _, fun _ => trivial⟩
      | ok u => exact ⟨hcount _, fun _ => ih⟩

/-- An alert goes to the channels as it is announced, and then its escalation starts. -/
theorem Relay.createIncident_every {r : Relay κ} {team : String} {content : Content}
    {params : Params}
    (hsend : ∀ channel, P (.send channel
      (announced (r.settingsFor params) (Incident.create incident team content))))
    (hput : ∀ marker ttl, P (.put incident marker ttl))
    (hpage : P (.page incident (r.settingsFor params).onCall))
    (harm : ∀ after, P (.arm incident (r.settingsFor params).onCall after))
    (hcount : ∀ event, P (.count event)) :
    (r.createIncident incident team content params).Every P := by
  refine ⟨hcount _, ?_⟩
  intro _
  dsimp only
  split
  · trivial
  · refine (dispatch_every hsend hcount r.name _).bind ?_
    intro sent
    cases sent with
    | error e => trivial
    | ok u =>
        unfold escalate
        dsimp only
        split
        · split
          · rw [id_announced]
            refine (Escalation.start_every hput hpage harm hcount).bind ?_
            intro started
            cases started <;> trivial
          · trivial
        · trivial

/-! ### Armed checks -/

namespace Armed

@[simp] theorem mem_insertInto {a b : Armed} {l : List Armed} :
    a ∈ insertInto b l ↔ a = b ∨ a ∈ l := by
  have split := List.takeWhile_append_dropWhile (p := fun x : Armed => x.due ≤ b.due) (l := l)
  unfold insertInto
  rw [List.mem_append, List.mem_cons]
  constructor
  · rintro (h | h | h)
    · exact .inr ((List.takeWhile_prefix _).subset h)
    · exact .inl h
    · exact .inr ((List.dropWhile_suffix _).subset h)
  · rintro (h | h)
    · exact .inr (.inl h)
    · rw [← split, List.mem_append] at h
      rcases h with h | h
      · exact .inl h
      · exact .inr (.inr h)

/-- Checks in the order of their instants. -/
def Sorted (l : List Armed) : Prop := l.Pairwise (·.due ≤ ·.due)

/-- In order, what is behind the checks that are due is not due. -/
theorem Sorted.lt_of_mem_dropWhile {l : List Armed} (h : Sorted l) {t : Nat} {a : Armed}
    (ha : a ∈ l.dropWhile (·.due ≤ t)) : t < a.due := by
  induction l with
  | nil => simp at ha
  | cons b rest ih =>
      obtain ⟨hb, hrest⟩ := List.pairwise_cons.mp h
      by_cases hdue : b.due ≤ t
      · rw [List.dropWhile_cons_of_pos (by simpa using hdue)] at ha
        exact ih hrest ha
      · rw [List.dropWhile_cons_of_neg (by simpa using hdue)] at ha
        rcases List.mem_cons.mp ha with rfl | ha
        · omega
        · have := hb a ha
          omega

/-- Inserting a check keeps the checks in order. -/
theorem Sorted.insertInto {l : List Armed} (h : Sorted l) (b : Armed) :
    Sorted (b.insertInto l) := by
  have hfront : ∀ a ∈ l.takeWhile (·.due ≤ b.due), a.due ≤ b.due := fun a ha => by
    simpa using List.mem_takeWhile_imp ha
  have hback : ∀ a ∈ l.dropWhile (·.due ≤ b.due), b.due ≤ a.due := fun a ha =>
    Nat.le_of_lt (h.lt_of_mem_dropWhile ha)
  refine List.pairwise_append.mpr ⟨h.sublist (List.takeWhile_sublist _), ?_, ?_⟩
  · exact List.pairwise_cons.mpr ⟨hback, h.sublist (List.dropWhile_sublist _)⟩
  · intro a ha c hc
    rcases List.mem_cons.mp hc with rfl | hc
    · exact hfront a ha
    · exact Nat.le_trans (hfront a ha) (hback c hc)

/-- Arming for one incident leaves the checks of the others as they are. -/
theorem filter_insertInto (p : Armed → Bool) (b : Armed) (l : List Armed) (h : p b = false) :
    (b.insertInto l).filter p = l.filter p := by
  have split := List.takeWhile_append_dropWhile (p := fun x : Armed => x.due ≤ b.due) (l := l)
  unfold Armed.insertInto
  rw [List.filter_append, List.filter_cons_of_neg (by simp [h]), ← List.filter_append, split]

/-- A check that is inserted is the only one of its kind if there was none before. -/
theorem filter_insertInto_of_none (p : Armed → Bool) (b : Armed) {l : List Armed}
    (h : p b = true) (hl : l.filter p = []) : (b.insertInto l).filter p = [b] := by
  have split := List.takeWhile_append_dropWhile (p := fun x : Armed => x.due ≤ b.due) (l := l)
  rw [← split, List.filter_append, List.append_eq_nil_iff] at hl
  unfold Armed.insertInto
  rw [List.filter_append, hl.1, List.filter_cons_of_pos h, hl.2]
  rfl

end Armed

namespace World

variable {ω : Type} (services : Services κ ω)

/-- The clock stands still during a call. -/
@[simp] theorem now_answer (c : Call κ) (w : World ω) : (answer services c w).2.now = w.now := by
  cases c <;> rfl

variable {services} in
/-- An operation goes on with the answer to its first call. -/
theorem perform_call {c : Call κ} {next : c.Reply → Process κ α} {w w' : World ω} {r : c.Reply}
    (h : answer services c w = (r, w')) :
    perform services (.call c next) w = perform services (next r) w' := by
  simp only [perform, Process.run, h]

/-- A sequence goes on with what came of its first part. -/
theorem perform_bind (p : Process κ α) (f : α → Process κ β) (w : World ω) :
    perform services (p.bind f) w =
      perform services (f (perform services p w).1) (perform services p w).2 :=
  p.run_bind (answer services) f w

variable {services} in
/-- What the calls of a kind keep is kept by an operation that makes no others. -/
theorem perform_keeps {I : World ω → Prop}
    (hanswer : ∀ c w, P c → I w → I (answer services c w).2) {p : Process κ α} (hp : p.Every P)
    {w : World ω} (hw : I w) : I (perform services p w).2 := by
  unfold perform
  induction p generalizing w with
  | done a => exact hw
  | call c next ih => exact ih _ (hp.2 _) (hanswer c w hp.1 hw)

/-- An operation takes no time. -/
@[simp] theorem now_perform (p : Process κ α) (w : World ω) :
    (perform services p w).2.now = w.now :=
  perform_keeps (I := fun v => v.now = w.now) (P := fun _ => True)
    (fun c v _ hv => (now_answer services c v).trans hv) (p.every_of_forall fun _ => trivial) rfl

end World

end IncidentRelay
