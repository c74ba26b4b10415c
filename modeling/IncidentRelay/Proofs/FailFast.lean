import IncidentRelay.Proofs.CallLog

/-!
# Fail-fast dispatch

A dispatch is measured against what its channels would answer if all of them were tried in turn. It
reaches the channels up to and including the first that refuses, and that refusal is its result.
Between two incidents it keeps nothing: what it does with the second is a matter of the clock and of
the services outside alone.

## Main statements

* `longest_untilRefusal`: what comes up to the first refusal is the longest beginning in which
  nothing but the last can be one.
* `dispatchReport_eq`: the calls and the result of a dispatch are read off the answers.
* `attempts_counted`: every attempt is counted once, under the name of its channel.
* `reportAt_dispatchAll`: one incident in a sequence is dispatched as it is on its own, in the world
  that the incidents before it left.
* `dispatchAll_fail_fast`: fail-fast dispatch of a sequence of incidents.
-/

namespace IncidentRelay

variable {κ α ω : Type}

/-! ### The answers of channels -/

/-- A channel and what it answered. -/
abbrev Answered (κ : Type) := κ × Except ChannelError Unit

/-- What the channels answer to an incident when all of them are tried in turn. -/
def answersTo (services : Services κ ω) (now : Nat) (i : Incident) :
    List κ → ω → List (Answered κ)
  | [], _ => []
  | c :: rest, o =>
    let (answer, o) := services.send now c i o
    (c, answer) :: answersTo services now i rest o

@[simp] theorem map_fst_answersTo (services : Services κ ω) (now : Nat) (i : Incident)
    (channels : List κ) (o : ω) :
    (answersTo services now i channels o).map Prod.fst = channels := by
  induction channels generalizing o with
  | nil => rfl
  | cons c rest ih => simp only [answersTo, List.map_cons, ih]

/-- Answers in which only the last can be a refusal. -/
def UpToRefusal (answers : List (Answered κ)) : Prop := ∀ d ∈ answers.dropLast, d.2 = .ok ()

/-- The longest beginning of a list that has a property. -/
structure LongestStart (P : List α → Prop) (start whole : List α) : Prop where
  starts : start <+: whole
  holds : P start
  longest : ∀ other, other <+: whole → P other → other <+: start

/-- The answers up to and including the first refusal. -/
def untilRefusal : List (Answered κ) → List (Answered κ)
  | [] => []
  | (c, .ok ()) :: rest => (c, .ok ()) :: untilRefusal rest
  | (c, .error e) :: _ => [(c, .error e)]

/-- What comes of answers: the first refusal, under the name of its channel. -/
def verdict (name : κ → String) : List (Answered κ) → Except DispatchError Unit
  | [] => .ok ()
  | (_, .ok ()) :: rest => verdict name rest
  | (c, .error e) :: _ => .error ⟨name c, e⟩

/-- An acceptance at the front does not end a dispatch. -/
theorem upToRefusal_ok_cons {c : κ} {rest : List (Answered κ)} :
    UpToRefusal ((c, .ok ()) :: rest) ↔ UpToRefusal rest := by
  cases rest with
  | nil => simp [UpToRefusal]
  | cons d rest => simp [UpToRefusal]

/-- Nothing comes after a refusal. -/
theorem upToRefusal_error_cons {c : κ} {e : ChannelError} {rest : List (Answered κ)} :
    UpToRefusal ((c, .error e) :: rest) ↔ rest = [] := by
  cases rest with
  | nil => simp [UpToRefusal]
  | cons d rest => simp [UpToRefusal]

/-- What comes up to the first refusal is the longest start that a dispatch can take. -/
theorem longest_untilRefusal (answers : List (Answered κ)) :
    LongestStart UpToRefusal (untilRefusal answers) answers := by
  induction answers using untilRefusal.induct with
  | case1 => exact ⟨List.prefix_rfl, by simp [untilRefusal, UpToRefusal], fun _ h _ => h⟩
  | case2 c rest ih =>
      refine ⟨(List.cons_prefix_cons).mpr ⟨rfl, ih.starts⟩, upToRefusal_ok_cons.mpr ih.holds, ?_⟩
      intro other hother hrefusal
      rcases List.prefix_cons_iff.mp hother with rfl | ⟨tail, rfl, htail⟩
      · exact List.nil_prefix
      · exact (List.cons_prefix_cons).mpr
          ⟨rfl, ih.longest tail htail (upToRefusal_ok_cons.mp hrefusal)⟩
  | case3 c e rest =>
      refine ⟨⟨rest, rfl⟩, upToRefusal_error_cons.mpr rfl, ?_⟩
      intro other hother hrefusal
      rcases List.prefix_cons_iff.mp hother with rfl | ⟨tail, rfl, -⟩
      · exact List.nil_prefix
      · rw [upToRefusal_error_cons.mp hrefusal]
        exact List.prefix_rfl

/-- All is well exactly if the channels were all reached and all took the incident. -/
theorem verdict_eq_ok_iff (name : κ → String) (answers : List (Answered κ)) :
    verdict name answers = .ok () ↔
      untilRefusal answers = answers ∧ ∀ d ∈ untilRefusal answers, d.2 = .ok () := by
  induction answers using untilRefusal.induct with
  | case1 => simp [verdict, untilRefusal]
  | case2 c rest ih => simp [verdict, untilRefusal, ih]
  | case3 c e rest => simp [verdict, untilRefusal]

/-- A dispatch fails exactly with the first refusal, as it is. -/
theorem verdict_eq_error_iff (name : κ → String) (answers : List (Answered κ))
    (e : DispatchError) :
    verdict name answers = .error e ↔
      ∃ front c cause back, answers = taken front ++ (c, .error cause) :: back ∧
        e = ⟨name c, cause⟩ := by
  induction answers using untilRefusal.induct with
  | case1 => simp [verdict]
  | case2 c rest ih =>
      rw [verdict, ih]
      constructor
      · rintro ⟨front, d, cause, back, rfl, he⟩
        exact ⟨c :: front, d, cause, back, rfl, he⟩
      · rintro ⟨front, d, cause, back, heq, he⟩
        cases front with
        | nil => simp [taken] at heq
        | cons b front => exact ⟨front, d, cause, back, (List.cons.inj heq).2, he⟩
  | case3 c cause rest =>
      constructor
      · intro h
        exact ⟨[], c, cause, rest, rfl, (Except.error.inj h).symm⟩
      · rintro ⟨front, d, cause', back, heq, rfl⟩
        cases front with
        | nil =>
            obtain ⟨rfl, rfl⟩ : c = d ∧ cause = cause' := by simpa using (List.cons.inj heq).1
            rfl
        | cons b front => simp [taken] at heq

/-! ### One dispatch -/

/-- What a dispatch did: the calls it made, with their answers, and its result. -/
structure DispatchReport (κ : Type) where
  calls : List (Called κ)
  result : Except DispatchError Unit

/-- The report on the dispatch of an incident. -/
def dispatchReport (services : Services κ ω) (name : κ → String) (channels : List κ)
    (i : Incident) (w : World ω) : DispatchReport κ where
  calls := (dispatch name i channels).calls (World.answer services) w
  result := (w.perform services (dispatch name i channels)).1

section
variable (services : Services κ ω) (name : κ → String) (i : Incident)

variable {services i} in
/-- A channel answers what it answers. -/
theorem answer_send {c : κ} {w : World ω} {answer : Except ChannelError Unit} {o : ω}
    (h : services.send w.now c i w.outside = (answer, o)) :
    World.answer services (.send c i) w = (answer, { w with outside := o }) := by
  simp only [World.answer, h]
  rfl

/-- What a dispatch reports is read off what all channels would answer. -/
theorem dispatchReport_eq (channels : List κ) (w : World ω) :
    dispatchReport services name channels i w =
      let answers := answersTo services w.now i channels w.outside
      ⟨handed i (untilRefusal answers), verdict name answers⟩ := by
  unfold dispatchReport World.perform
  induction channels generalizing w with
  | nil => rfl
  | cons c rest ih =>
      unfold dispatch
      cases hsend : services.send w.now c i w.outside with
      | mk answer o =>
          simp only [Process.calls, Process.run, Call.isCount, Bool.false_eq_true, if_false,
            answer_send hsend, answersTo, hsend]
          cases answer with
          | error e => rfl
          | ok u =>
              -- what is counted in between does not reach the channels behind
              have hrest := ih { w with
                outside := o, counters := w.counters.increment (.sent (name c)) }
              simp only [DispatchReport.mk.injEq] at hrest
              exact congrArg₂ DispatchReport.mk (congrArg (_ :: ·) hrest.1) hrest.2

/-- What is counted for an attempt. -/
def attemptEvent (name : κ → String) : Answered κ → Event
  | (c, .ok ()) => .sent (name c)
  | (c, .error _) => .sendFailed (name c)

/-- Every attempt is counted under its channel, up to the first refusal. -/
theorem attempts_counted (channels : List κ) (w : World ω) :
    (w.perform services (dispatch name i channels)).2.counters =
      (untilRefusal (answersTo services w.now i channels w.outside)).foldl
        (fun counters d => counters.increment (attemptEvent name d)) w.counters := by
  unfold World.perform
  induction channels generalizing w with
  | nil => rfl
  | cons c rest ih =>
      unfold dispatch
      cases hsend : services.send w.now c i w.outside with
      | mk answer o =>
          simp only [Process.run, answer_send hsend, answersTo, hsend]
          cases answer with
          | error e => rfl
          | ok u => exact ih _

/-- Channels that keep nothing leave everything outside as it is. -/
theorem outside_perform_dispatch (hkeeps : ∀ now c j o, (services.send now c j o).2 = o)
    (channels : List κ) (w : World ω) :
    (w.perform services (dispatch name i channels)).2.outside = w.outside := by
  refine World.perform_keeps (I := fun v => v.outside = w.outside)
    (P := fun c => c.isCount = true ∨ ∃ channel, c = .send channel i) ?_
    (dispatch_every (fun c => .inr ⟨c, rfl⟩) (fun _ => .inl rfl) name channels) rfl
  rintro c v (hcount | ⟨channel, rfl⟩) hv
  · cases c with
    | count event => exact hv
    | put | present | remove | page | send | arm => simp [Call.isCount] at hcount
  · exact (hkeeps _ _ _ _).trans hv

end

/-! ### Sequences of incidents -/

/-- Dispatches incidents one after the other, to a report on each and the world after the last. -/
def dispatchAll (services : Services κ ω) (name : κ → String) (channels : List κ) :
    List Incident → World ω → List (DispatchReport κ) × World ω
  | [], w => ([], w)
  | i :: rest, w =>
    let after := (w.perform services (dispatch name i channels)).2
    let (reports, last) := dispatchAll services name channels rest after
    (dispatchReport services name channels i w :: reports, last)

section
variable (services : Services κ ω) (name : κ → String) (channels : List κ)

/-- An incident is reported on as if the dispatches before it were all there were. -/
theorem reportAt_dispatchAll (front : List Incident) (i : Incident) (back : List Incident)
    (w : World ω) :
    (dispatchAll services name channels (front ++ i :: back) w).1[front.length]? =
      some (dispatchReport services name channels i
        (dispatchAll services name channels front w).2) := by
  induction front generalizing w with
  | nil => rfl
  | cons j front ih => exact ih _

/-- Between incidents the clock stands still, and channels that keep nothing leave everything
outside as it is. -/
theorem outside_dispatchAll (hkeeps : ∀ now c j o, (services.send now c j o).2 = o)
    (incidents : List Incident) (w : World ω) :
    (dispatchAll services name channels incidents w).2.now = w.now ∧
      (dispatchAll services name channels incidents w).2.outside = w.outside := by
  induction incidents generalizing w with
  | nil => exact ⟨rfl, rfl⟩
  | cons i rest ih =>
      obtain ⟨hnow, houtside⟩ := ih (w.perform services (dispatch name i channels)).2
      exact ⟨hnow.trans (World.now_perform services _ w),
        houtside.trans (outside_perform_dispatch services name i hkeeps channels w)⟩

/-- In a sequence of incidents, each goes in order to the longest beginning of the channels in which
nothing but the last refuses. Its dispatch succeeds if these are all channels and all took it, and
else fails with the first refusal as it is. What was sent before makes no difference but through the
services outside: in a world with the same clock and the same services the dispatch is the same, and
when channels keep nothing of what they are sent it is the dispatch of that incident alone. -/
theorem dispatchAll_fail_fast (front : List Incident) (i : Incident) (back : List Incident)
    (w : World ω) :
    let before := (dispatchAll services name channels front w).2
    let answers := answersTo services before.now i channels before.outside
    ∃ sent result,
      (dispatchAll services name channels (front ++ i :: back) w).1[front.length]? =
          some ⟨handed i sent, result⟩ ∧
        answers.map Prod.fst = channels ∧
        LongestStart UpToRefusal sent answers ∧
        (result = .ok () ↔ sent = answers ∧ ∀ d ∈ sent, d.2 = .ok ()) ∧
        (∀ e, result = .error e ↔
          ∃ first c cause rest, answers = taken first ++ (c, .error cause) :: rest ∧
            e = ⟨name c, cause⟩) ∧
        (∀ v : World ω, v.now = before.now → v.outside = before.outside →
          dispatchReport services name channels i v = ⟨handed i sent, result⟩) ∧
        ((∀ now c j o, (services.send now c j o).2 = o) →
          dispatchReport services name channels i w = ⟨handed i sent, result⟩) := by
  intro before answers
  have hsame : ∀ v : World ω, v.now = before.now → v.outside = before.outside →
      dispatchReport services name channels i v =
        ⟨handed i (untilRefusal answers), verdict name answers⟩ := by
    intro v hnow houtside
    rw [dispatchReport_eq, hnow, houtside]
  refine ⟨untilRefusal answers, verdict name answers, ?_, map_fst_answersTo _ _ _ _ _,
    longest_untilRefusal answers, verdict_eq_ok_iff name answers, verdict_eq_error_iff name answers,
    hsame, ?_⟩
  · rw [reportAt_dispatchAll, hsame before rfl rfl]
  · intro hkeeps
    obtain ⟨hnow, houtside⟩ := outside_dispatchAll services name channels hkeeps front w
    exact hsame w hnow.symm houtside.symm

end

/-- Services that keep nothing, over channels that are known by what they answer. -/
def Services.forgetful : Services (String × Option ChannelError) Unit where
  put _ _ _ _ o := (.ok (), o)
  present _ _ o := (.ok false, o)
  remove _ _ o := (.ok false, o)
  page _ _ _ o := (.ok (), o)
  send _ c _ o := (match c.2 with | none => .ok () | some e => .error e, o)

/-- Two channels of one name with a channel between them that refuses: the second incident is
dispatched as it is alone, and does not get beyond the refusal. -/
theorem dispatchAll_fail_fast_twice :
    let channels := [("a", none), ("b", some (ChannelError.template "no such file")), ("a", none)]
    let first := Incident.create "1" "" []
    let second := Incident.create "2" "" []
    let alone := dispatchReport .forgetful Prod.fst channels second { outside := () }
    (dispatchAll .forgetful Prod.fst channels [first, second] { outside := () }).1[1]? =
        some alone ∧
      alone.result = .error ⟨"b", .template "no such file"⟩ ∧ alone.calls.length = 2 := by
  intro channels first second alone
  obtain ⟨sent, result, hreport, -, -, -, herror, -, hkeeps⟩ :=
    dispatchAll_fail_fast .forgetful Prod.fst channels [first] second [] { outside := () }
  have halone : alone = ⟨handed second sent, result⟩ := hkeeps fun _ _ _ _ => rfl
  refine ⟨hreport.trans (congrArg some halone.symm), ?_, rfl⟩
  rw [halone]
  exact (herror _).mpr ⟨[("a", none)], _, _, [(("a", none), .ok ())], rfl, rfl⟩

end IncidentRelay
