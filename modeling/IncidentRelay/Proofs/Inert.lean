import IncidentRelay.Drill.Site
import IncidentRelay.Proofs.Restart.Deployment
import IncidentRelay.Proofs.Schedule.Alike
import IncidentRelay.Proofs.Tables

/-!
# Calls without effect

A store may fail, and a record that is asked for may not be there. In neither case does anything
change outside, so an acknowledgment that fails leaves nothing behind but the count of what was not
found.

What changes outside is told up to a relation. A store in memory stays the same altogether, while a
store behind a connection may have to set that up again, which nobody notices later.

## Main statements

* `World.acknowledge_of_error`: what an acknowledgment that fails leaves behind.
* `Drill.services_inert`, `Site.services_inert`: the stores of drills change nothing if they do not
  do what they are asked.
* `Deployment.services_inert`: nor does a store in Redis, up to the connection and the clock.
-/

namespace IncidentRelay

variable {κ ω : Type} {O : ω → ω → Prop}

/-- Services to which it makes no difference in which of two related states they are. -/
structure Services.Blind (O : ω → ω → Prop) (S : Services κ ω) : Prop where
  equivalence : Equivalence O
  same : Services.Match O S S
  samePager : Services.SamePager O S S

/-- Services whose store changes nothing, up to a relation, when it is asked for a record, and
nothing when it does not remove the record that it has just seen. -/
structure Services.Inert (O : ω → ω → Prop) (S : Services κ ω) : Prop where
  present : ∀ now key o, O o (S.present now key o).2
  remove : ∀ now key o o₁, S.present now key o = (.ok true, o₁) →
    (S.remove now key o₁).1 ≠ .ok true → O o (S.remove now key o₁).2

/-- A store that changes nothing at all when it is asked, or does not remove. -/
theorem Services.inert_of_eq {S : Services κ ω}
    (hpresent : ∀ now key o, (S.present now key o).2 = o)
    (hremove : ∀ now key o, (S.remove now key o).1 ≠ .ok true → (S.remove now key o).2 = o) :
    S.Inert Eq where
  present now key o := (hpresent now key o).symm
  remove now key o o₁ hseen hne := by
    obtain rfl : o = o₁ := (hpresent now key o).symm.trans (congrArg Prod.snd hseen)
    exact (hremove now key o hne).symm

/-- Nothing makes a difference between a state and itself. -/
theorem Services.blind_eq (S : Services κ ω) : S.Blind Eq :=
  ⟨eq_equivalence, S.match_self, S.samePager_self⟩

namespace World

variable {S : Services κ ω}

/-- Looking for a record changes nothing, up to the relation. -/
theorem answer_present (hS : S.Inert O) (key : String) (w : World ω) :
    ∃ o, O w.outside o ∧ (answer S (.present key) w).2 = { w with outside := o } :=
  ⟨_, hS.present w.now key w.outside, rfl⟩

/-- A removal of a record that was seen, but is not removed, changes nothing, up to the relation. -/
theorem answer_remove_of_ne (hS : S.Inert O) {key : String} {w w₁ w₂ : World ω}
    {r : Except StoreError Bool} (hpresent : answer S (.present key) w = (.ok true, w₁))
    (hremove : answer S (.remove key) w₁ = (r, w₂)) (hr : r ≠ .ok true) :
    ∃ o, O w.outside o ∧ w₂ = { w with outside := o } := by
  obtain rfl : { w with outside := (S.present w.now key w.outside).2 } = w₁ :=
    congrArg Prod.snd hpresent
  have htrue : (S.present w.now key w.outside).1 = .ok true := (congrArg Prod.fst hpresent :)
  have hne := ne_of_eq_of_ne (congrArg Prod.fst hremove) hr
  exact ⟨_, hS.remove w.now key w.outside _ (Prod.ext htrue rfl) hne,
    (congrArg Prod.snd hremove).symm⟩

/-- An acknowledgment that fails changes at most the count of what was not found. -/
theorem acknowledge_of_error (hS : S.Inert O) {incident : String} {w : World ω} {e : OnCallError}
    (h : (w.perform S (Escalation.acknowledge incident)).1 = .error e) :
    ∃ o, O w.outside o ∧
      ((w.perform S (Escalation.acknowledge incident)).2 = { w with outside := o } ∨
        (w.perform S (Escalation.acknowledge incident)).2 =
          { w with outside := o, counters := w.counters.increment .notFound }) := by
  simp only [Escalation.acknowledge] at h ⊢
  obtain ⟨o, ho, hpresent⟩ := answer_present hS incident w
  rcases hp : answer S (.present incident) w with ⟨r, w₁⟩
  obtain rfl : w₁ = { w with outside := o } := by simpa [hp] using hpresent
  rw [perform_call hp] at h ⊢
  match r with
  | .error e => exact ⟨o, ho, .inl rfl⟩
  | .ok false => exact ⟨o, ho, .inr rfl⟩
  | .ok true =>
      rcases hr : answer S (.remove incident) { w with outside := o } with ⟨r, w₂⟩
      dsimp only at h ⊢
      rw [perform_call hr] at h ⊢
      match r with
      | .error e =>
          obtain ⟨o₂, ho₂, rfl⟩ := answer_remove_of_ne hS hp hr nofun
          exact ⟨o₂, ho₂, .inl rfl⟩
      | .ok false =>
          obtain ⟨o₂, ho₂, rfl⟩ := answer_remove_of_ne hS hp hr nofun
          exact ⟨o₂, ho₂, .inr rfl⟩
      | .ok true => exact absurd h nofun

end World

/-! ### Stores of drills -/

/-- A removal that finds nothing changes nothing. -/
theorem Memory.remove_of_false {m : Memory} {key : String} (h : (m.remove key).1 ≠ true) :
    (m.remove key).2 = m := by
  refine Table.erase_of_none ?_
  simpa [Memory.remove] using h

/-- A store that is a stand-in changes nothing when it fails, whatever it was told. -/
theorem DrillStore.remove_of_ne {s : DrillStore} {key : String}
    (h : (s.remove key).1 ≠ .ok true) : (s.remove key).2 = s := by
  simp only [DrillStore.remove] at h ⊢
  split
  case h_4 =>
    rw [Memory.remove_of_false]
    simpa using h
  all_goals rfl

/-- Looking for a record leaves the store of a drill as it is. -/
theorem DrillStore.present_snd (s : DrillStore) (now : Nat) (key : String) :
    (s.present now key).2 = s := by
  simp only [DrillStore.present]
  split <;> rfl

/-- The stand-ins of a drill change nothing when they are asked, or do not remove. -/
theorem Drill.services_inert : Drill.services.Inert Eq := by
  refine Services.inert_of_eq ?_ ?_
  · intro now key d
    simp only [services, DrillStore.present_snd]
  · intro now key d h
    have hstore : (d.store.remove key).1 ≠ .ok true := h
    simp only [services, DrillStore.remove_of_ne hstore]

namespace Site

variable {S : Services Outlet Site}

/-- So it is with the stand-ins of a site, -/
theorem standIns_inert (files : Files) : (standIns files).Inert Eq := by
  refine Services.inert_of_eq ?_ ?_
  · intro now key s
    simp only [standIns, Drill.services, DrillStore.present_snd]
  · intro now key s h
    have hstore : (s.drill.store.remove key).1 ≠ .ok true := h
    simp only [standIns, Drill.services, DrillStore.remove_of_ne hstore]

/-- with a store in memory, -/
theorem withMemory_inert (S : Services Outlet Site) : (withMemory S).Inert Eq := by
  refine Services.inert_of_eq (fun _ _ _ => rfl) ?_
  intro now key s h
  have hrecords : (s.records.remove key).1 ≠ true := fun htrue => h (congrArg _ htrue)
  simp only [withMemory, Memory.remove_of_false hrecords]

/-- and with any pager. -/
theorem withPager_inert (hS : S.Inert Eq) (p : Pager) : (withPager p S).Inert Eq :=
  ⟨hS.present, hS.remove⟩

/-- Whatever a site is built of, its store changes nothing when it does not do what it is asked. -/
theorem services_inert (plan : SitePlan) : (services plan).Inert Eq := by
  have hstore : (if plan.ownStore then withMemory (standIns plan.files)
      else standIns plan.files).Inert Eq := by
    split
    · exact withMemory_inert _
    · exact standIns_inert plan.files
  simp only [services]
  split
  · split
    · exact withPager_inert hstore _
    · exact hstore
  · exact hstore

end Site

/-! ### A store in Redis -/

namespace Deployment

/-- The same records and the same pages. The connection may be up or lost, and the clock is set anew
with each command. -/
def SameContents (d e : Deployment) : Prop :=
  e.redis.outside.records = d.redis.outside.records ∧ e.pages = d.pages

variable (redis : Settings.Redis) (verdict : Page → Except PagingError Unit)

/-- Having the same contents is an equivalence. -/
theorem sameContents_equivalence : Equivalence SameContents where
  refl _ := ⟨rfl, rfl⟩
  symm h := ⟨h.1.symm, h.2.symm⟩
  trans h k := ⟨k.1.trans h.1, k.2.trans h.2⟩

/-- Deployments with the same contents have the same records. -/
theorem live_of_sameContents {d e : Deployment} (h : SameContents d e) (now : Nat) (key : String) :
    live now key e = live now key d := by
  rw [live, live, h.1]

/-- The services of a deployment see nothing of it but its contents. -/
theorem services_blind : (services redis verdict).Blind SameContents where
  equivalence := sameContents_equivalence
  same := by
    constructor
    · intro d e h now key marker ttl
      by_cases hlong : maxWord < ttl * 1000
      · simp only [services, Redis.Store.put_of_long _ hlong]
        exact ⟨rfl, h⟩
      · rw [put_eq redis verdict (Nat.not_lt.mp hlong), put_eq redis verdict (Nat.not_lt.mp hlong),
          h.1]
        exact ⟨rfl, rfl, h.2⟩
    · intro d e h now key
      rw [present_eq, present_eq, live_of_sameContents h]
      exact ⟨rfl, h⟩
    · intro d e h now key
      rw [remove_eq, remove_eq, live_of_sameContents h, h.1]
      exact ⟨rfl, rfl, h.2⟩
    · intro d e h now incident settings
      simp only [services, SameContents, h.1, h.2, and_self]
    · intro d e h now channel
      exact channel.elim
  samePager _ _ _ _ _ _ := rfl

/-- A record that the server has just seen it can remove. -/
theorem services_inert : (services redis verdict).Inert SameContents where
  present now key d := by
    rw [present_eq]
    exact ⟨rfl, rfl⟩
  remove now key d d₁ hpresent hne := by
    rw [present_eq] at hpresent
    obtain ⟨hlive, rfl⟩ := Prod.mk.inj hpresent
    rw [remove_eq] at hne
    exact absurd hlive hne

end Deployment

end IncidentRelay
