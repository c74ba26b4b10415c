import IncidentRelay.Proofs.Calls

/-!
# Worlds that behave alike

No operation looks at the counters, and only the operation that pages hears what the pager says. So
two worlds go through the same operations in the same way when their services answer the same,
whatever was counted before, and almost in the same way when only their pagers differ.

## Main statements

* `World.Alike.perform`: an operation gives the same result in both worlds, and they stay alike.
* `World.Alike.page`, `World.Alike.runCheck`: they stay alike although the pagers answer otherwise.
* `World.Alike.advance`: they stay alike as time passes.
-/

namespace IncidentRelay

/-- A comparison of counters that holds on when both count the same. -/
def Counters.Stable (K : Counters → Counters → Prop) : Prop :=
  ∀ c d event, K c d → K (c.increment event) (d.increment event)

/-- A comparison of counters that does not care how a page ended. -/
def Counters.Forgiving (K : Counters → Counters → Prop) : Prop :=
  ∀ c d path e f, e = .paged path ∨ e = .pageFailed path →
    f = .paged path ∨ f = .pageFailed path → K c d → K (c.increment e) (d.increment f)

variable {κ ω ω' α : Type} {O : ω → ω' → Prop} {K : Counters → Counters → Prop}

/-- The same answer, with what is left related by `O`. -/
def Agree (O : ω → ω' → Prop) (x : α × ω) (y : α × ω') : Prop := y.1 = x.1 ∧ O x.2 y.2

/-- Services that agree in everything but what their pagers answer. -/
structure Services.Match (O : ω → ω' → Prop) (S : Services κ ω) (T : Services κ ω') : Prop where
  put : ∀ {o o'}, O o o' → ∀ now key marker ttl,
    Agree O (S.put now key marker ttl o) (T.put now key marker ttl o')
  present : ∀ {o o'}, O o o' → ∀ now key, Agree O (S.present now key o) (T.present now key o')
  remove : ∀ {o o'}, O o o' → ∀ now key, Agree O (S.remove now key o) (T.remove now key o')
  page : ∀ {o o'}, O o o' → ∀ now incident settings,
    O (S.page now incident settings o).2 (T.page now incident settings o').2
  send : ∀ {o o'}, O o o' → ∀ now channel incident,
    Agree O (S.send now channel incident o) (T.send now channel incident o')

/-- Pagers that answer the same. -/
def Services.SamePager (O : ω → ω' → Prop) (S : Services κ ω) (T : Services κ ω') : Prop :=
  ∀ o o', O o o' → ∀ now incident settings,
    (T.page now incident settings o').1 = (S.page now incident settings o).1

/-- Services agree with themselves over the same state. -/
theorem Services.match_self (S : Services κ ω) : Services.Match Eq S S := by
  constructor <;> rintro o _ rfl <;> intros
  · exact ⟨rfl, rfl⟩
  · exact ⟨rfl, rfl⟩
  · exact ⟨rfl, rfl⟩
  · rfl
  · exact ⟨rfl, rfl⟩

/-- Services page like themselves. -/
theorem Services.samePager_self (S : Services κ ω) : Services.SamePager Eq S S := by
  rintro o _ rfl now incident settings
  rfl

namespace World

/-- A page is one call to the pager and one count, which depends on the answer. -/
theorem perform_page_snd (S : Services κ ω) (path : PagePath) (incident : String)
    (settings : Settings.OnCall) (w : World ω) :
    ∃ e, (e = .paged path ∨ e = .pageFailed path) ∧
      (perform S (Escalation.page path incident settings) w).2 =
        { w with
          counters := w.counters.increment e
          outside := (S.page w.now incident settings w.outside).2 } := by
  rcases hr : answer S (.page incident settings) w with ⟨r, w₁⟩
  obtain rfl : w₁ = { w with outside := (S.page w.now incident settings w.outside).2 } :=
    (congrArg Prod.snd hr).symm
  unfold Escalation.page
  rw [perform_call hr]
  match r with
  | .ok () => exact ⟨.paged path, .inl rfl, rfl⟩
  | .error e => exact ⟨.pageFailed path, .inr rfl, rfl⟩

/-- Worlds at one time, with the same checks armed, related in the rest. -/
structure Alike (O : ω → ω' → Prop) (K : Counters → Counters → Prop) (v : World ω)
    (w : World ω') : Prop where
  now : w.now = v.now
  armed : w.armed = v.armed
  outside : O v.outside w.outside
  counters : K v.counters w.counters

namespace Alike

variable {S : Services κ ω} {T : Services κ ω'} {v : World ω} {w : World ω'}

/-- A call has the same answer in worlds that are alike, unless it is to pagers that differ. -/
theorem answer (h : Alike O K v w) (hST : Services.Match O S T) (hK : Counters.Stable K)
    {c : Call κ} (hc : Services.SamePager O S T ∨ ∀ i settings, c ≠ .page i settings) :
    Agree (Alike O K) (World.answer S c v) (World.answer T c w) := by
  obtain ⟨now, armed, c₁, o⟩ := v
  obtain ⟨now', armed', c₂, o'⟩ := w
  obtain ⟨rfl, rfl, houtside, hcounters⟩ := h
  cases c with
  | put key marker ttl =>
      obtain ⟨hreply, hafter⟩ := hST.put houtside now' key marker ttl
      exact ⟨hreply, rfl, rfl, hafter, hcounters⟩
  | present key =>
      obtain ⟨hreply, hafter⟩ := hST.present houtside now' key
      exact ⟨hreply, rfl, rfl, hafter, hcounters⟩
  | remove key =>
      obtain ⟨hreply, hafter⟩ := hST.remove houtside now' key
      exact ⟨hreply, rfl, rfl, hafter, hcounters⟩
  | page i settings =>
      have hsame := hc.resolve_right fun hne => hne i settings rfl
      exact ⟨hsame _ _ houtside now' i settings, rfl, rfl, hST.page houtside now' i settings,
        hcounters⟩
  | send channel i =>
      obtain ⟨hreply, hafter⟩ := hST.send houtside now' channel i
      exact ⟨hreply, rfl, rfl, hafter, hcounters⟩
  | arm i settings after => exact ⟨rfl, rfl, rfl, houtside, hcounters⟩
  | count event => exact ⟨rfl, rfl, rfl, houtside, hK _ _ event hcounters⟩

/-- An operation gives the same result in worlds that are alike, if their pagers agree or it does
not page. -/
theorem perform (h : Alike O K v w) (hST : Services.Match O S T) (hK : Counters.Stable K)
    {p : Process κ α}
    (hp : Services.SamePager O S T ∨ p.Every fun c => ∀ i settings, c ≠ .page i settings) :
    Agree (Alike O K) (World.perform S p v) (World.perform T p w) := by
  unfold World.perform
  induction p generalizing v w with
  | done a => exact ⟨rfl, h⟩
  | call c next ih =>
      obtain ⟨hreply, hafter⟩ := h.answer hST hK (hp.imp_right And.left)
      simp only [Process.run]
      rw [hreply]
      exact ih _ hafter (hp.imp_right fun hevery => hevery.2 _)

/-- Worlds stay alike after a page, however it ends. -/
theorem page (h : Alike O K v w) (hST : Services.Match O S T) (hK : Counters.Forgiving K)
    (path : PagePath) (incident : String) (settings : Settings.OnCall) :
    Alike O K (World.perform S (Escalation.page path incident settings) v).2
      (World.perform T (Escalation.page path incident settings) w).2 := by
  obtain ⟨e, he, hv⟩ := perform_page_snd S path incident settings v
  obtain ⟨f, hf, hw⟩ := perform_page_snd T path incident settings w
  rw [hv, hw, h.now]
  exact ⟨rfl, h.armed, hST.page h.outside v.now incident settings,
    hK _ _ path e f he hf h.counters⟩

/-- A check does the same in worlds that are alike, if their pagers agree or the comparison does not
care how a page ends. -/
theorem runCheck (h : Alike O K v w) (hST : Services.Match O S T) (hK : Counters.Stable K)
    (hp : Services.SamePager O S T ∨ Counters.Forgiving K) (a : Armed) :
    Alike O K (World.runCheck S v a) (World.runCheck T w a) := by
  have hdue : Alike O K { v with now := a.due } { w with now := a.due } :=
    ⟨rfl, h.armed, h.outside, h.counters⟩
  rcases hp with hsame | hforgiving
  · exact (hdue.perform hST hK (.inl hsame)).2
  · obtain ⟨hpresent, hafter⟩ := hdue.answer (c := .present a.incident) hST hK (.inr nofun)
    unfold World.runCheck Escalation.check
    rcases hv : World.answer S (.present a.incident) { v with now := a.due } with ⟨r, v₁⟩
    rcases hw : World.answer T (.present a.incident) { w with now := a.due } with ⟨r', w₁⟩
    rw [hv, hw] at hpresent hafter
    obtain rfl : r' = r := hpresent
    rw [perform_call hv, perform_call hw]
    match r' with
    | .error e | .ok false => exact hafter
    | .ok true =>
        obtain ⟨hremove, hafter⟩ := hafter.answer (c := .remove a.incident) hST hK (.inr nofun)
        rcases hv : World.answer S (.remove a.incident) v₁ with ⟨r, v₂⟩
        rcases hw : World.answer T (.remove a.incident) w₁ with ⟨r', w₂⟩
        rw [hv, hw] at hremove hafter
        obtain rfl : r' = r := hremove
        dsimp only
        rw [perform_call hv, perform_call hw]
        match r' with
        | .error e | .ok false => exact hafter
        | .ok true =>
            have hpage := hafter.page hST hforgiving .deferred a.incident a.settings
            simp only [World.perform, Process.run_bind] at hpage ⊢
            exact hpage

/-- Worlds that are alike stay so while checks are made. -/
theorem foldl (h : Alike O K v w) (hST : Services.Match O S T) (hK : Counters.Stable K)
    (hp : Services.SamePager O S T ∨ Counters.Forgiving K) (l : List Armed) :
    Alike O K (l.foldl (World.runCheck S) v) (l.foldl (World.runCheck T) w) := by
  induction l generalizing v w with
  | nil => exact h
  | cons a rest ih => exact ih (h.runCheck hST hK hp a)

/-- Worlds stay alike as time passes. -/
theorem advance (h : Alike O K v w) (hST : Services.Match O S T) (hK : Counters.Stable K)
    (hp : Services.SamePager O S T ∨ Counters.Forgiving K) (seconds : Nat) :
    Alike O K (World.advance S seconds v) (World.advance T seconds w) := by
  have hrest : Alike O K { v with armed := v.armed.dropWhile (·.due ≤ v.now + seconds) }
      { w with now := v.now, armed := v.armed.dropWhile (·.due ≤ v.now + seconds) } :=
    ⟨rfl, rfl, h.outside, h.counters⟩
  have hfold := hrest.foldl hST hK hp (v.armed.takeWhile (·.due ≤ v.now + seconds))
  unfold World.advance
  rw [h.now, h.armed]
  exact ⟨rfl, hfold.armed, hfold.outside, hfold.counters⟩

end Alike

end World

end IncidentRelay
