import IncidentRelay.Proofs.Calls

/-!
# The calls of a run

Which calls a run makes, in which order and with which answers. What a run leaves behind is read off
them.

## Main statements

* `Process.calls_bind`: the calls of a sequence are those of its parts.
* `dispatch_calls`, `Escalation.start_calls`: the calls of a dispatch and of a start, one case for
  each way in which they can go.
* `World.armed_perform`: a run arms what its calls arm.
* `World.sorted_advance`: armed checks stay in order while time passes.
-/

namespace IncidentRelay

variable {κ α β σ ω : Type}

/-- A call with its answer. -/
abbrev Called (κ : Type) := (c : Call κ) × c.Reply

/-- Whether a call only counts. -/
def Call.isCount : Call κ → Bool
  | .count _ => true
  | _ => false

namespace Process

/-- The calls of a run in order, each with its answer. Counting is left out. -/
def calls (answer : (c : Call κ) → σ → c.Reply × σ) : Process κ α → σ → List (Called κ)
  | .done _, _ => []
  | .call c next, s =>
    let rest := calls answer (next (answer c s).1) (answer c s).2
    if c.isCount then rest else ⟨c, (answer c s).1⟩ :: rest

variable (answer : (c : Call κ) → σ → c.Reply × σ)

/-- The calls of a sequence are those of its parts one after the other. -/
theorem calls_bind (p : Process κ α) (f : α → Process κ β) (s : σ) :
    (p.bind f).calls answer s =
      p.calls answer s ++ (f (p.run answer s).1).calls answer (p.run answer s).2 := by
  induction p generalizing s with
  | done a => rfl
  | call c next ih =>
      simp only [bind, calls, run, ih]
      split <;> rfl

/-- What is true of all calls that a process can make is true of those that it makes. -/
theorem Every.of_mem_calls {P : Call κ → Prop} {p : Process κ α} (hp : p.Every P) {s : σ}
    {d : Called κ} (hd : d ∈ p.calls answer s) : P d.1 := by
  induction p generalizing s with
  | done a => cases hd
  | call c next ih =>
      unfold calls at hd
      dsimp only at hd
      split at hd
      · exact ih _ (hp.2 _) hd
      · rcases List.mem_cons.mp hd with rfl | hd
        · exact hp.1
        · exact ih _ (hp.2 _) hd

end Process

/-! ### Dispatch -/

/-- Calls that hand an incident to channels, with what the channels answered. -/
def handed (i : Incident) (sent : List (κ × Except ChannelError Unit)) : List (Called κ) :=
  sent.map fun d => ⟨.send d.1 i, d.2⟩

/-- Channels that took what they were handed. -/
def taken (channels : List κ) : List (κ × Except ChannelError Unit) := channels.map (·, .ok ())

/-- How a dispatch can go: what the channels answered, and its result. -/
inductive Dispatched (name : κ → String) (channels : List κ) :
    List (κ × Except ChannelError Unit) → Except DispatchError Unit → Prop
  | accepted : Dispatched name channels (taken channels) (.ok ())
  | refused (front : List κ) (c : κ) (back : List κ) (e : ChannelError)
      (h : channels = front ++ c :: back) :
      Dispatched name channels (taken front ++ [(c, .error e)]) (.error ⟨name c, e⟩)

/-- A dispatch goes on as one with an accepting channel before it. -/
theorem Dispatched.cons {name : κ → String} {channels : List κ}
    {sent : List (κ × Except ChannelError Unit)} {r : Except DispatchError Unit}
    (h : Dispatched name channels sent r) (c : κ) :
    Dispatched name (c :: channels) ((c, .ok ()) :: sent) r := by
  cases h with
  | accepted => exact .accepted
  | refused front d back e h => exact .refused (c :: front) d back e (congrArg (c :: ·) h)

/-- A refused incident was not taken by all channels. -/
theorem Dispatched.ne_taken {name : κ → String} {channels : List κ}
    {sent : List (κ × Except ChannelError Unit)} {e : DispatchError}
    (h : Dispatched name channels sent (.error e)) (others : List κ) : sent ≠ taken others := by
  cases h with
  | refused front c back e h =>
      intro heq
      have hmem : (c, Except.error e) ∈ taken others := by
        rw [← heq]
        simp
      simp [taken] at hmem

/-- The calls of a dispatch. -/
theorem dispatch_calls (answer : (c : Call κ) → σ → c.Reply × σ) (name : κ → String) (i : Incident)
    (channels : List κ) (s : σ) :
    ∃ sent, (dispatch name i channels).calls answer s = handed i sent ∧
      Dispatched name channels sent ((dispatch name i channels).run answer s).1 := by
  induction channels generalizing s with
  | nil => exact ⟨[], rfl, .accepted⟩
  | cons c rest ih =>
      unfold dispatch
      simp only [Process.calls, Process.run, Call.isCount, Bool.false_eq_true, if_false]
      cases hsend : answer (.send c i) s with
      | mk r t =>
          cases r with
          | error e => exact ⟨[(c, .error e)], rfl, .refused [] c rest e rfl⟩
          | ok u =>
              obtain ⟨sent, hcalls, hsent⟩ := ih (answer (.count (.sent (name c))) t).2
              refine ⟨(c, .ok ()) :: sent, ?_, hsent.cons c⟩
              simp only [Process.calls, Call.isCount, if_true, hcalls]
              rfl

/-! ### The start of an escalation -/

namespace Escalation

/-- How the start of an escalation can go: its calls, and its result. -/
inductive Begun (incident : String) (settings : Settings.OnCall) :
    List (Called κ) → Except OnCallError Started → Prop
  | paged (h : settings.wait = 0) :
      Begun incident settings [⟨.page incident settings, .ok ()⟩] (.ok .paged)
  | pageFailed (h : settings.wait = 0) (e : PagingError) :
      Begun incident settings [⟨.page incident settings, .error e⟩] (.error (.paging e))
  | pending (h : settings.wait ≠ 0) :
      Begun incident settings
        [⟨.put incident pendingMarker (settings.wait + recordGrace), .ok ()⟩,
          ⟨.arm incident settings settings.wait, ()⟩] (.ok (.pending settings.wait))
  | unrecorded (h : settings.wait ≠ 0) (e : StoreError) :
      Begun incident settings
        [⟨.put incident pendingMarker (settings.wait + recordGrace), .error e⟩] (.error (.store e))

/-- The calls of a start. -/
theorem start_calls (answer : (c : Call κ) → σ → c.Reply × σ) (incident : String)
    {settings : Settings.OnCall} (hfits : settings.wait + recordGrace ≤ maxWord) (s : σ) :
    Begun incident settings ((start incident settings).calls answer s)
      ((start incident settings).run answer s).1 := by
  by_cases hwait : settings.wait = 0
  · rw [start_of_wait_zero hwait]
    unfold page
    simp only [Process.bind, Process.calls, Process.run, Call.isCount, Bool.false_eq_true, if_false]
    cases answer (.page incident settings) s with
    | mk r t =>
        cases r with
        | error e => exact .pageFailed hwait e
        | ok u => exact .paged hwait
  · unfold start
    simp only [if_neg hwait, if_neg (Nat.not_lt.mpr hfits), Process.calls, Process.run,
      Call.isCount, Bool.false_eq_true, if_false]
    cases answer (.put incident pendingMarker (settings.wait + recordGrace)) s with
    | mk r t =>
        cases r with
        | error e => exact .unrecorded hwait e
        | ok u => exact .pending hwait

/-- A start that was begun has made a call. -/
theorem Begun.ne_nil {incident : String} {settings : Settings.OnCall} {start : List (Called κ)}
    {result : Except OnCallError Started} (h : Begun incident settings start result) :
    start ≠ [] := by
  cases h <;> simp

/-- Whether a start succeeded shows in its calls. -/
theorem Begun.not_ok_of_error {incident : String} {settings : Settings.OnCall}
    {start : List (Called κ)} {e : OnCallError} {started : Started}
    (h : Begun incident settings start (.error e)) :
    ¬ Begun incident settings start (.ok started) := by
  intro hok
  cases h <;> cases hok

end Escalation

/-! ### Armed checks -/

/-- The check that a call arms. -/
def Call.armed? (now : Nat) : Call κ → Option Armed
  | .arm incident settings after => some ⟨now + after, incident, settings⟩
  | _ => none

namespace World

/-- A call arms at most its own check. -/
theorem armed_answer (services : Services κ ω) (c : Call κ) (w : World ω) :
    (answer services c w).2.armed =
      (c.armed? w.now).toList.foldl (fun l a => a.insertInto l) w.armed := by
  cases c <;> rfl

/-- The checks that are armed after a run are those before it and those that its calls armed. -/
theorem armed_perform (services : Services κ ω) (p : Process κ α) (w : World ω) :
    (perform services p w).2.armed =
      ((p.calls (answer services) w).filterMap (·.1.armed? w.now)).foldl
        (fun l a => a.insertInto l) w.armed := by
  unfold perform
  induction p generalizing w with
  | done a => rfl
  | call c next ih =>
      simp only [Process.run, Process.calls, ih, now_answer]
      rw [armed_answer]
      cases c <;> rfl

variable {services : Services κ ω}

/-- What arms no check of a kind leaves the checks of that kind as they are. -/
theorem filter_armed_perform {f : Armed → Bool} {p : Process κ α}
    (h : p.Every fun c => ∀ now, ∀ a ∈ c.armed? now, f a = false) (w : World ω) :
    (w.perform services p).2.armed.filter f = w.armed.filter f := by
  refine perform_keeps (I := fun v => v.armed.filter f = w.armed.filter f) ?_ h rfl
  intro c v hc hv
  rw [armed_answer]
  cases harmed : c.armed? v.now with
  | none => exact hv
  | some a => exact (Armed.filter_insertInto f a v.armed (hc v.now a harmed)).trans hv

/-- What arms nothing leaves the armed checks as they are. -/
theorem armed_perform_of_none {p : Process κ α} (h : p.Every fun c => ∀ now, c.armed? now = none)
    (w : World ω) : (w.perform services p).2.armed = w.armed := by
  refine perform_keeps (I := fun v => v.armed = w.armed) ?_ h rfl
  intro c v hc hv
  rw [armed_answer, hc]
  exact hv

/-- Checks arm nothing. -/
theorem armed_runChecks (l : List Armed) (w : World ω) :
    (l.foldl (runCheck services) w).armed = w.armed := by
  induction l generalizing w with
  | nil => rfl
  | cons a rest ih =>
      exact (ih _).trans (armed_perform_of_none (p := Escalation.check a.incident a.settings)
        (Escalation.check_every (fun _ => rfl) (fun _ => rfl) (fun _ => rfl) fun _ _ => rfl)
        { w with now := a.due })

/-- Armed checks stay in order. -/
theorem sorted_perform {w : World ω} (h : Armed.Sorted w.armed) (p : Process κ α) :
    Armed.Sorted (w.perform services p).2.armed := by
  refine perform_keeps (I := fun v => Armed.Sorted v.armed) (P := fun _ => True) ?_
    (p.every_of_forall fun _ => trivial) h
  intro c v _ hv
  cases c with
  | arm i settings after => exact hv.insertInto _
  | put | present | remove | page | send | count => exact hv

/-- Once time has passed, the checks that were due by then are gone. -/
theorem armed_advance (seconds : Nat) (w : World ω) :
    (w.advance services seconds).armed = w.armed.dropWhile (·.due ≤ w.now + seconds) :=
  armed_runChecks _ _

/-- Armed checks stay in order while time passes. -/
theorem sorted_advance {w : World ω} (h : Armed.Sorted w.armed) (seconds : Nat) :
    Armed.Sorted (w.advance services seconds).armed := by
  rw [armed_advance]
  exact h.sublist (List.dropWhile_sublist _)

end World

end IncidentRelay
