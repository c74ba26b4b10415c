import IncidentRelay.Drill.Workflow
import IncidentRelay.Proofs.Calls

/-!
# Stores that work

What the workflow relies on in a store, whatever is behind it: a record is seen exactly as long as
it is there, removing it succeeds and takes it away, and what is done to one record is not done to
another. Over such a store the operations have one outcome each, which depends on nothing but their
own record.

## Main statements

* `Backing.live_perform`: an operation that avoids an incident leaves its record alone.
* `Backing.absent_perform`: an operation that does not write a record does not bring it back.
* `Backing.acknowledge_of_live`, `Backing.acknowledge_of_absent`: what an acknowledgment does.
* `Backing.check_of_live`, `Backing.check_of_absent`: what a check does.
* `Drill.backing`: a store in memory works.
-/

namespace IncidentRelay

variable {κ ω α : Type}

/-- A call that does not write the record of an incident. -/
def Call.WritesNot (incident : String) : Call κ → Prop
  | .put key _ _ => key ≠ incident
  | _ => True

/-- A store that works, behind some services. -/
structure Backing (services : Services κ ω) where
  /-- The states in which the store works. -/
  sound : ω → Prop
  /-- Whether there is a record at an instant. -/
  live : (now : Nat) → String → ω → Bool
  put : ∀ now key marker ttl o, sound o →
    sound (services.put now key marker ttl o).2 ∧
      ∀ t other, other ≠ key → live t other (services.put now key marker ttl o).2 = live t other o
  present : ∀ now key o, sound o →
    (services.present now key o).1 = .ok (live now key o) ∧
      sound (services.present now key o).2 ∧
        ∀ t other, live t other (services.present now key o).2 = live t other o
  remove : ∀ now key o, sound o →
    (live now key o = true → (services.remove now key o).1 = .ok true) ∧
      sound (services.remove now key o).2 ∧
        ∀ t other, live t other (services.remove now key o).2 = (other ≠ key && live t other o)
  page : ∀ now incident settings o, sound o →
    sound (services.page now incident settings o).2 ∧
      ∀ t other, live t other (services.page now incident settings o).2 = live t other o
  send : ∀ now channel i o, sound o →
    sound (services.send now channel i o).2 ∧
      ∀ t other, live t other (services.send now channel i o).2 = live t other o

namespace Backing

variable {services : Services κ ω} (B : Backing services) {incident : String} {w : World ω}

/-- Every call keeps what the store holds sound. -/
theorem sound_answer (h : B.sound w.outside) (c : Call κ) :
    B.sound (World.answer services c w).2.outside := by
  cases c with
  | put key marker ttl => exact (B.put w.now key marker ttl w.outside h).1
  | present key => exact (B.present w.now key w.outside h).2.1
  | remove key => exact (B.remove w.now key w.outside h).2.1
  | page i settings => exact (B.page w.now i settings w.outside h).1
  | send channel i => exact (B.send w.now channel i w.outside h).1
  | arm | count => exact h

/-- A store goes on working, whatever is called. -/
theorem sound_perform (h : B.sound w.outside) (p : Process κ α) :
    B.sound (w.perform services p).2.outside :=
  World.perform_keeps (I := fun v => B.sound v.outside) (P := fun _ => True)
    (fun c _ _ hv => B.sound_answer hv c) (p.every_of_forall fun _ => trivial) h

/-- A call that avoids an incident leaves its record alone. -/
theorem live_answer (h : B.sound w.outside) {c : Call κ} (hc : c.Avoids incident) (t : Nat) :
    B.live t incident (World.answer services c w).2.outside = B.live t incident w.outside := by
  cases c with
  | put key marker ttl => exact (B.put w.now key marker ttl w.outside h).2 t incident hc.symm
  | present key => exact (B.present w.now key w.outside h).2.2 t incident
  | remove key =>
      have hne : incident ≠ key := Ne.symm hc
      refine ((B.remove w.now key w.outside h).2.2 t incident).trans ?_
      simp [hne]
  | page i settings => exact (B.page w.now i settings w.outside h).2 t incident
  | send channel i => exact (B.send w.now channel i w.outside h).2 t incident
  | arm | count => rfl

/-- An operation that avoids an incident leaves its record alone. -/
theorem live_perform (h : B.sound w.outside) {p : Process κ α} (hp : p.Every (Call.Avoids incident))
    (t : Nat) :
    B.live t incident (w.perform services p).2.outside = B.live t incident w.outside := by
  refine (World.perform_keeps (P := Call.Avoids incident) (I := fun v =>
    B.sound v.outside ∧ B.live t incident v.outside = B.live t incident w.outside)
      ?_ hp ⟨h, rfl⟩).2
  intro c v hc hv
  exact ⟨B.sound_answer hv.1 c, (B.live_answer hv.1 hc t).trans hv.2⟩

/-- An operation that does not write a record does not bring it back. -/
theorem absent_perform (h : B.sound w.outside) {p : Process κ α}
    (hp : p.Every (Call.WritesNot incident)) (habsent : ∀ t, B.live t incident w.outside = false) :
    ∀ t, B.live t incident (w.perform services p).2.outside = false := by
  refine (World.perform_keeps (I := fun v => B.sound v.outside ∧
    ∀ t, B.live t incident v.outside = false) ?_ hp ⟨h, habsent⟩).2
  intro c v hc hv
  refine ⟨B.sound_answer hv.1 c, ?_⟩
  intro t
  cases c with
  | put key marker ttl =>
      exact ((B.put v.now key marker ttl v.outside hv.1).2 t incident (Ne.symm hc)).trans (hv.2 t)
  | remove key =>
      refine ((B.remove v.now key v.outside hv.1).2.2 t incident).trans ?_
      simp [hv.2 t]
  | present key => exact ((B.present v.now key v.outside hv.1).2.2 t incident).trans (hv.2 t)
  | page i settings => exact ((B.page v.now i settings v.outside hv.1).2 t incident).trans (hv.2 t)
  | send channel i => exact ((B.send v.now channel i v.outside hv.1).2 t incident).trans (hv.2 t)
  | arm | count => exact hv.2 t

/-! ### The operations on a record -/

/-- A look for a record tells whether it is there, and changes no more than the outside. -/
theorem answer_present (h : B.sound w.outside) (incident : String) :
    World.answer services (.present incident) w =
      (.ok (B.live w.now incident w.outside),
        { w with outside := (services.present w.now incident w.outside).2 }) := by
  simp only [World.answer, (B.present w.now incident w.outside h).1]

/-- What is outside after a record was found and removed. -/
def claimed (services : Services κ ω) (incident : String) (w : World ω) : ω :=
  (services.remove w.now incident (services.present w.now incident w.outside).2).2

/-- A record that was found can be removed. -/
theorem answer_remove (h : B.sound w.outside) (hlive : B.live w.now incident w.outside = true) :
    World.answer services (.remove incident)
        { w with outside := (services.present w.now incident w.outside).2 } =
      (.ok true, { w with outside := claimed services incident w }) := by
  obtain ⟨-, hsound, hsame⟩ := B.present w.now incident w.outside h
  obtain ⟨hremoved, -⟩ := B.remove w.now incident _ hsound
  simp only [World.answer, hremoved ((hsame w.now incident).trans hlive)]
  rfl

/-- Removing a record leaves all others. -/
theorem live_claimed (h : B.sound w.outside) (incident : String) (t : Nat) (other : String) :
    B.live t other (claimed services incident w) =
      (other ≠ incident && B.live t other w.outside) := by
  obtain ⟨-, hsound, hsame⟩ := B.present w.now incident w.outside h
  obtain ⟨-, -, hrest⟩ := B.remove w.now incident _ hsound
  exact (hrest t other).trans (by rw [hsame])

/-- Without a record there is nothing to acknowledge. -/
theorem acknowledge_of_absent (h : B.sound w.outside)
    (habsent : B.live w.now incident w.outside = false) :
    let after := w.perform services (Escalation.acknowledge incident)
    after.1 = .error (.notFound incident) ∧ after.2.armed = w.armed ∧
      ∀ t other, B.live t other after.2.outside = B.live t other w.outside := by
  have hfound := B.answer_present h incident
  rw [habsent] at hfound
  unfold Escalation.acknowledge
  rw [World.perform_call hfound]
  exact ⟨rfl, rfl, (B.present w.now incident w.outside h).2.2⟩

/-- An acknowledgment removes the record. -/
theorem acknowledge_of_live (h : B.sound w.outside)
    (hlive : B.live w.now incident w.outside = true) :
    let after := w.perform services (Escalation.acknowledge incident)
    after.1 = .ok () ∧ after.2.armed = w.armed ∧
      ∀ t other, B.live t other after.2.outside =
        (other ≠ incident && B.live t other w.outside) := by
  have hfound := B.answer_present h incident
  rw [hlive] at hfound
  unfold Escalation.acknowledge
  rw [World.perform_call hfound, World.perform_call (B.answer_remove h hlive)]
  exact ⟨rfl, rfl, B.live_claimed h incident⟩

/-- Without a record a check is over. -/
theorem check_of_absent (h : B.sound w.outside)
    (habsent : B.live w.now incident w.outside = false) (settings : Settings.OnCall) :
    (w.perform services (Escalation.check incident settings)).2 =
      { w with outside := (services.present w.now incident w.outside).2 } := by
  have hfound := B.answer_present h incident
  rw [habsent] at hfound
  unfold Escalation.check
  rw [World.perform_call hfound]
  rfl

/-- A check that finds the record removes it and pages. -/
theorem check_of_live (h : B.sound w.outside)
    (hlive : B.live w.now incident w.outside = true) (settings : Settings.OnCall) :
    w.perform services (Escalation.check incident settings) =
      World.perform services ((Escalation.page .deferred incident settings).bind fun _ => .done ())
        { w with outside := claimed services incident w } := by
  have hfound := B.answer_present h incident
  rw [hlive] at hfound
  unfold Escalation.check
  rw [World.perform_call hfound, World.perform_call (B.answer_remove h hlive)]

end Backing

/-! ### The store in memory -/

/-- A store in memory works unless it was told to fail, whether or not its records run out. -/
def Drill.backing : Backing Drill.services where
  sound d := d.store.mode = .healthy
  live now key d := d.store.records.present (d.store.instant now) key
  put now key marker ttl d h := by
    simp only [services, DrillStore.put, h]
    refine ⟨trivial, ?_⟩
    intro t other hne
    simp only [DrillStore.instant, Memory.present_put, if_neg (Ne.symm hne)]
  present now key d h := by
    simp only [services, DrillStore.present_of_healthy now key d.store h]
    exact ⟨trivial, h, fun _ _ => trivial⟩
  remove now key d h := by
    simp only [services, DrillStore.remove, h]
    refine ⟨?_, trivial, ?_⟩
    · intro hlive
      unfold Memory.present at hlive
      unfold Memory.remove
      cases hget : d.store.records.get? key with
      | none => simp [hget] at hlive
      | some r => rfl
    · intro t other
      simp only [DrillStore.instant, Memory.present_remove]
      by_cases hkey : key = other
      · simp [hkey]
      · simp [hkey, Ne.symm hkey]
  page now incident settings d h := by
    have hstore : (services.page now incident settings d).2.store = d.store := by
      cases hfailure : d.pagerFailure <;> simp [services, hfailure]
    rw [hstore]
    exact ⟨h, fun _ _ => rfl⟩
  send _ c := nomatch c

end IncidentRelay
