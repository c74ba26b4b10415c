import IncidentRelay.Proofs.Schedule.Alike
import IncidentRelay.Proofs.Schedule.Run
import Mathlib.Data.List.Forall2

/-!
# Runs with another pager

Whatever the pager answers, a run goes the same way. Its answers decide only what comes of starts
without a window, and whether a page is counted as made or as failed.

## Main statements

* `Drill.runWith_told`: a pager that answers as it was told to is the pager of the drill.
* `Drill.stepWith_repaged`, `Drill.runWith_repaged`: with any other pager a step and a run differ
  from that in nothing else.
-/

namespace IncidentRelay

/-- The same but for how pages ended. -/
structure Counters.SameButPages (c d : Counters) : Prop where
  others : ∀ event, (∀ path, event ≠ .paged path ∧ event ≠ .pageFailed path) →
    d.value event = c.value event
  pages : ∀ path, d.value (.paged path) + d.value (.pageFailed path) =
    c.value (.paged path) + c.value (.pageFailed path)

namespace Counters.SameButPages

/-- Pages may be counted differently after any event. -/
theorem stable : Stable SameButPages := by
  intro c d event h
  constructor
  · intro e he
    rw [value_increment, value_increment, h.others e he]
  · intro path
    have := h.pages path
    simp only [value_increment]
    omega

/-- How a page is counted makes no difference up to pages. -/
theorem forgiving : Forgiving SameButPages := by
  intro c d path e f he hf h
  constructor
  · intro event hevent
    have hne (g : Event) (hg : g = .paged path ∨ g = .pageFailed path) : g ≠ event := by
      rintro rfl
      rcases hg with rfl | rfl
      · exact (hevent path).1 rfl
      · exact (hevent path).2 rfl
    rw [value_increment, value_increment, if_neg (hne e he), if_neg (hne f hf)]
    exact congrArg (· + 0) (h.others event hevent)
  · intro other
    have hpages := h.pages other
    have hone (g : Event) (hg : g = .paged path ∨ g = .pageFailed path) :
        ((if g = .paged other then 1 else 0) + if g = .pageFailed other then 1 else 0) =
          if path = other then 1 else 0 := by
      rcases hg with rfl | rfl <;> simp
    have h₁ := hone e he
    have h₂ := hone f hf
    simp only [value_increment]
    omega

end Counters.SameButPages

namespace Drill

/-- What a pager answers, once the page is on record: it may depend on everything outside. -/
abbrev Pager := Drill → Option PagingError

/-- The services of a drill, but with a pager of its own. -/
def answering (pager : Pager) : Services Empty Drill :=
  { services with
    page := fun now incident settings d =>
      let d := { d with pages := ⟨now, incident, settings⟩ :: d.pages }
      match pager d with
      | some e => (.error e, d)
      | none => (.ok (), d) }

/-- Does what a step says with a pager of its own. -/
def performWith (pager : Pager) (w : World Drill) : Step → Outcome × World Drill
  | .start incident settings =>
    let (r, w) := w.perform (answering pager) (Escalation.start incident settings)
    (.started r, w)
  | .acknowledge incident =>
    let (r, w) := w.perform (answering pager) (Escalation.acknowledge incident)
    (.acknowledged r, w)
  | .advance seconds => (.nothing, w.advance (answering pager) seconds)
  | .setStore mode => perform w (.setStore mode)
  | .setPager failure => perform w (.setPager failure)

/-- Does what a step says with a pager of its own, and reports on it. -/
def stepWith (pager : Pager) (w : World Drill) (s : Step) : Report × World Drill :=
  let (outcome, w) := performWith pager (fresh w) s
  (report outcome w, w)

/-- Runs a drill with a pager for each step. -/
def runWith (w : World Drill) : List (Pager × Step) → List Report × World Drill
  | [] => ([], w)
  | (pager, s) :: rest =>
    let (r, w) := stepWith pager w s
    let (rs, w) := runWith w rest
    (r :: rs, w)

/-- The pager that answers what it was told to. -/
def told : Pager := fun d => d.pagerFailure

/-- With a pager that answers as it was told, a step is that of the drill. -/
theorem stepWith_told (w : World Drill) (s : Step) : stepWith told w s = step w s := by
  cases s <;> rfl

/-- With pagers that answer what they were told to, a run is the run of the drill. -/
theorem runWith_told (w : World Drill) (steps : List Step) :
    runWith w (steps.map fun s => (told, s)) = runFrom w steps := by
  induction steps generalizing w with
  | nil => rfl
  | cons s rest ih => simp only [List.map_cons, runWith, runFrom, stepWith_told, ih]

/-- The same store and the same pages. -/
def SameRecords (d e : Drill) : Prop := e.store = d.store ∧ e.pages = d.pages

/-- Whatever the pager answers, the records are the same. -/
theorem answering_match (p q : Pager) :
    Services.Match SameRecords (answering p) (answering q) := by
  constructor
  · rintro ⟨store, told₁, pages⟩ ⟨store', told₂, pages'⟩ ⟨rfl, rfl⟩ now key marker ttl
    exact ⟨rfl, rfl, rfl⟩
  · rintro ⟨store, told₁, pages⟩ ⟨store', told₂, pages'⟩ ⟨rfl, rfl⟩ now key
    exact ⟨rfl, rfl, rfl⟩
  · rintro ⟨store, told₁, pages⟩ ⟨store', told₂, pages'⟩ ⟨rfl, rfl⟩ now key
    exact ⟨rfl, rfl, rfl⟩
  · rintro ⟨store, told₁, pages⟩ ⟨store', told₂, pages'⟩ ⟨rfl, rfl⟩ now incident settings
    simp only [answering]
    split <;> split <;> exact ⟨rfl, rfl⟩
  · intro d e h now channel
    exact channel.elim

/-- Two reports on a step that differ at most in what came of it, and only if it was a start without
a window. -/
structure Repaged (s : Step) (r r' : Report) : Prop where
  pages : r'.pages = r.pages
  written : r'.written = r.written
  pending : r'.pending = r.pending
  outcome : r'.outcome = r.outcome ∨
    ∃ incident settings, s = .start incident settings ∧ settings.wait = 0

variable {K : Counters → Counters → Prop} {v w : World Drill}

/-- Worlds with the same records report the same. -/
theorem Repaged.of_alike {s : Step} {o o' : Outcome} (h : World.Alike SameRecords K v w)
    (ho : o' = o ∨ ∃ incident settings, s = .start incident settings ∧ settings.wait = 0) :
    Repaged s (report o v) (report o' w) := by
  obtain ⟨hstore, hpages⟩ := h.outside
  constructor
  · exact congrArg (fun pages => pages.reverse.mergeSort Page.le) hpages
  · exact congrArg (fun store : DrillStore => store.written.reverse) hstore
  · simp only [report]
    rw [hstore, h.now]
  · exact ho

/-- Worlds that are alike stay so when what was reported is put aside. -/
theorem fresh_alike (h : World.Alike SameRecords K v w) :
    World.Alike SameRecords K (fresh v) (fresh w) :=
  ⟨h.now, h.armed, ⟨by simp only [fresh]; rw [h.outside.1], rfl⟩, h.counters⟩

/-- A start without a window is one page. -/
theorem perform_start_snd {S : Services Empty Drill} {settings : Settings.OnCall}
    (h : settings.wait = 0) (incident : String) (w : World Drill) :
    (w.perform S (Escalation.start incident settings)).2 =
      (w.perform S (Escalation.page .immediate incident settings)).2 := by
  rw [Escalation.start_of_wait_zero h, World.perform, World.perform, Process.run_bind]
  cases (Process.run (World.answer S) (Escalation.page .immediate incident settings) w).1 <;> rfl

/-- With another pager a step does the same, up to how its pages end. -/
theorem stepWith_repaged (h : World.Alike SameRecords Counters.SameButPages v w) (p q : Pager)
    (s : Step) :
    Repaged s (stepWith p v s).1 (stepWith q w s).1 ∧
      World.Alike SameRecords Counters.SameButPages (stepWith p v s).2 (stepWith q w s).2 := by
  have hfresh := fresh_alike h
  have hmatch := answering_match p q
  cases s with
  | start incident settings =>
      by_cases hwait : settings.wait = 0
      · have hpage :=
          hfresh.page hmatch Counters.SameButPages.forgiving .immediate incident settings
        rw [← perform_start_snd hwait, ← perform_start_snd hwait] at hpage
        exact ⟨.of_alike hpage (.inr ⟨incident, settings, rfl, hwait⟩), hpage⟩
      · have hevery : (Escalation.start (κ := Empty) incident settings).Every
            fun c => ∀ i settings, c ≠ .page i settings :=
          Escalation.start_every_of_window hwait (fun _ _ => nofun) fun _ => nofun
        obtain ⟨hresult, hafter⟩ := hfresh.perform hmatch Counters.SameButPages.stable (.inr hevery)
        exact ⟨.of_alike hafter (.inl (congrArg Outcome.started hresult)), hafter⟩
  | acknowledge incident =>
      have hevery : (Escalation.acknowledge (κ := Empty) incident).Every
          fun c => ∀ i settings, c ≠ .page i settings :=
        Escalation.acknowledge_every nofun nofun fun _ => nofun
      obtain ⟨hresult, hafter⟩ := hfresh.perform hmatch Counters.SameButPages.stable (.inr hevery)
      exact ⟨.of_alike hafter (.inl (congrArg Outcome.acknowledged hresult)), hafter⟩
  | advance seconds =>
      have hafter := hfresh.advance hmatch Counters.SameButPages.stable
        (.inr Counters.SameButPages.forgiving) seconds
      exact ⟨.of_alike hafter (.inl rfl), hafter⟩
  | setStore mode =>
      have hafter : World.Alike SameRecords Counters.SameButPages
          (stepWith p v (.setStore mode)).2 (stepWith q w (.setStore mode)).2 :=
        ⟨h.now, h.armed,
          ⟨by simp only [stepWith, performWith, perform]; rw [hfresh.outside.1], rfl⟩,
          h.counters⟩
      exact ⟨.of_alike hafter (.inl rfl), hafter⟩
  | setPager failure =>
      have hafter : World.Alike SameRecords Counters.SameButPages
          (stepWith p v (.setPager failure)).2 (stepWith q w (.setPager failure)).2 :=
        ⟨h.now, h.armed, ⟨hfresh.outside.1, rfl⟩, h.counters⟩
      exact ⟨.of_alike hafter (.inl rfl), hafter⟩

/-- With other pagers a run goes the same way, up to how its pages end. -/
theorem runWith_repaged (h : World.Alike SameRecords Counters.SameButPages v w)
    (steps : List (Pager × Step)) :
    List.Forall₂ (fun e r => Repaged e.1 e.2 r) (trace v (steps.map Prod.snd))
        (runWith w steps).1 ∧
      World.Alike SameRecords Counters.SameButPages (runFrom v (steps.map Prod.snd)).2
        (runWith w steps).2 := by
  induction steps generalizing v w with
  | nil => exact ⟨.nil, h⟩
  | cons e rest ih =>
      obtain ⟨pager, s⟩ := e
      obtain ⟨hreport, hafter⟩ := stepWith_repaged h told pager s
      rw [stepWith_told] at hreport hafter
      obtain ⟨hreports, hend⟩ := ih hafter
      exact ⟨.cons hreport hreports, hend⟩

end Drill

end IncidentRelay
