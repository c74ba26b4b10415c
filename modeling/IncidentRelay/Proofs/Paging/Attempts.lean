import IncidentRelay.Drill.Wire
import IncidentRelay.Paging.Pager

/-!
# Attempts at a page

Which requests one page sends, whatever the paging service replies to them, and by whatever policy
the client of the incident manager tries again. A page that has a request sends it at least once,
and sends nothing else. It is sent again only by a pager that has more than one attempt, and only
after a failure that may pass; what came of the last attempt is what came of the page.

## Main statements

* `Retry.exchange_attempts`: how the attempts at a request go.
* `Pager.page_attempts`: the requests of a page, and when it succeeds.
* `Pager.overloaded_page_repeated`: the incident manager is asked again after a failure.
-/

namespace IncidentRelay

variable {σ : Type}

/-- A wire that keeps the requests sent over it in their order, each with what came of it. -/
def Wire.logged (wire : Wire σ) : Wire (σ × List (Http.Request × Http.Outcome)) where
  exchange r s :=
    let (outcome, t) := wire.exchange r s.1
    (outcome, t, s.2 ++ [(r, outcome)])
  submit session s :=
    let (result, t) := wire.submit session s.1
    (result, t, s.2)

/-- An exchange over a wire that keeps its requests adds itself to them. -/
theorem Wire.logged_exchange (wire : Wire σ) (r : Http.Request)
    (s : σ × List (Http.Request × Http.Outcome)) :
    wire.logged.exchange r s =
      ((wire.exchange r s.1).1, (wire.exchange r s.1).2, s.2 ++ [(r, (wire.exchange r s.1).1)]) :=
  rfl

namespace Retry

variable {retry : Retry}

/-- How attempts at a request go that number `most` at the most: what came of those that were given
up, and of the last one. An attempt is given up if its failure may pass and another one is left. -/
structure Attempted (retry : Retry) (most : Nat) (passed : List Http.Outcome)
    (last : Http.Outcome) : Prop where
  passed_mayPass : ∀ o ∈ passed, retry.mayPass o = true
  length_lt : passed.length < most
  spent_of_mayPass : retry.mayPass last = true → passed.length + 1 = most

/-- One more failed attempt before the others. -/
theorem Attempted.cons {most : Nat} {passed : List Http.Outcome} {first last : Http.Outcome}
    (h : Attempted retry most passed last) (hfirst : retry.mayPass first = true) :
    Attempted retry (most + 1) (first :: passed) last where
  passed_mayPass := List.forall_mem_cons.mpr ⟨hfirst, h.passed_mayPass⟩
  length_lt := Nat.succ_lt_succ h.length_lt
  spent_of_mayPass hlast := congrArg (· + 1) (h.spent_of_mayPass hlast)

/-- One attempt is enough if it is the last one, or if its failure would not pass. -/
theorem Attempted.once {most : Nat} {last : Http.Outcome}
    (h : retry.mayPass last = true → most = 0) : Attempted retry (most + 1) [] last where
  passed_mayPass := nofun
  length_lt := Nat.succ_pos most
  spent_of_mayPass hlast := congrArg (· + 1) (h hlast).symm

/-- The request is sent once if there is one attempt, or if the first failure would not pass. -/
theorem Attempted.length_eq_one_iff {most : Nat} {passed : List Http.Outcome} {last : Http.Outcome}
    (h : Attempted retry most passed last) (r : Http.Request) :
    ((passed ++ [last]).map (r, ·)).length = 1 ↔
      most = 1 ∨ ∀ x ∈ ((passed ++ [last]).map (r, ·)).head?, retry.mayPass x.2 = false := by
  have hlt := h.length_lt
  cases passed with
  | nil =>
      cases hlast : retry.mayPass last with
      | false => simp [hlast]
      | true =>
          have hspent := h.spent_of_mayPass hlast
          simpa [hlast] using hspent.symm
  | cons first rest =>
      have hfirst := h.passed_mayPass first List.mem_cons_self
      have hmost : most ≠ 1 := by
        rintro rfl
        simp at hlt
      simp [hfirst, hmost]

/-- An attempt that was given up was no success. -/
theorem Attempted.not_isSuccess {most : Nat} {passed : List Http.Outcome} {last : Http.Outcome}
    (h : Attempted retry most passed last) {reply : Http.Reply} (hreply : .reply reply ∈ passed) :
    Http.isSuccess reply.status = false := by
  cases hsuccess : Http.isSuccess reply.status with
  | false => rfl
  | true =>
      have hpass := h.passed_mayPass _ hreply
      rw [retry.final reply hsuccess] at hpass
      exact absurd hpass Bool.false_ne_true

/-- There is a first attempt. -/
theorem exists_attempts (retry : Retry) : ∃ left, retry.attempts = left + 1 :=
  Nat.exists_eq_add_one_of_ne_zero (Nat.ne_of_gt retry.attempts_pos)

/-- The attempts at a request send it and nothing else, and the last of them counts. -/
theorem exchange_attempts (retry : Retry) (wire : Wire σ) (r : Http.Request) (left : Nat)
    (s : σ × List (Http.Request × Http.Outcome)) :
    ∃ passed, (retry.exchange wire.logged r (left + 1) s).2.2 =
        s.2 ++ (passed ++ [(retry.exchange wire.logged r (left + 1) s).1]).map (r, ·) ∧
      Attempted retry (left + 1) passed (retry.exchange wire.logged r (left + 1) s).1 := by
  induction left generalizing s with
  | zero =>
      refine ⟨[], ?_, .once fun _ => rfl⟩
      simp only [exchange, wire.logged_exchange, List.nil_append, List.map_singleton]
  | succ left ih =>
      simp only [exchange, wire.logged_exchange]
      by_cases hpass : retry.mayPass (wire.exchange r s.1).1 = true
      · simp only [hpass, if_true]
        obtain ⟨passed, hlog, hattempted⟩ :=
          ih ((wire.exchange r s.1).2, s.2 ++ [(r, (wire.exchange r s.1).1)])
        refine ⟨(wire.exchange r s.1).1 :: passed, ?_, hattempted.cons hpass⟩
        rw [hlog]
        simp only [List.cons_append, List.map_cons, List.append_assoc, List.nil_append]
      · simp only [hpass]
        exact ⟨[], rfl, .once fun h => absurd h hpass⟩

/-- Without the requests that were kept, an exchange goes as it does over the wire itself. -/
theorem exchange_logged (retry : Retry) (wire : Wire σ) (r : Http.Request) :
    ∀ (left : Nat) (s : σ × List (Http.Request × Http.Outcome)), retry.exchange wire r left s.1 =
      ((retry.exchange wire.logged r left s).1, (retry.exchange wire.logged r left s).2.1)
  | 0, _ | 1, _ => rfl
  | left + 2, s => by
      simp only [exchange, wire.logged_exchange]
      by_cases hpass : retry.mayPass (wire.exchange r s.1).1 = true
      · simp only [hpass, if_true]
        exact exchange_logged retry wire r (left + 1)
          ((wire.exchange r s.1).2, s.2 ++ [(r, (wire.exchange r s.1).1)])
      · simp only [hpass]
        rfl

end Retry

namespace Pager

/-- Without the requests that were kept, a page goes as it does over the wire itself. -/
theorem trigger_logged (wire : Wire σ) (p : Pager) (incident : String)
    (own : Option Settings.OnCall) (s : σ × List (Http.Request × Http.Outcome)) :
    p.trigger wire incident own s.1 =
      ((p.trigger wire.logged incident own s).1, (p.trigger wire.logged incident own s).2.1) := by
  simp only [trigger]
  cases p.request incident own with
  | error e => rfl
  | ok r => simp only [p.retry.exchange_logged wire r p.retry.attempts s]

/-- A page sends its request, if it has one, and nothing else. -/
theorem sent_of_trigger (wire : Wire σ) (p : Pager) (incident : String)
    (own : Option Settings.OnCall) (s : σ) :
    let sent := (p.trigger wire.logged incident own (s, [])).2.2
    (∀ x ∈ sent, p.request incident own = .ok x.1) ∧
      (sent = [] ↔ ∃ e, p.request incident own = .error e) := by
  intro sent
  cases hr : p.request incident own with
  | error e =>
      have hsent : sent = [] := by simp only [sent, trigger, hr]
      simp [hsent]
  | ok r =>
      obtain ⟨left, hleft⟩ := p.retry.exists_attempts
      obtain ⟨passed, hlog, -⟩ := p.retry.exchange_attempts wire r left (s, [])
      have hsent : sent =
          (passed ++ [(p.retry.exchange wire.logged r (left + 1) (s, [])).1]).map (r, ·) := by
        simp only [sent, trigger, hr, hleft, hlog, List.nil_append]
      rw [hsent]
      refine ⟨?_, by simp⟩
      intro x hx
      obtain ⟨o, -, rfl⟩ := List.mem_map.mp hx
      rfl

/-- A page is accepted if the last reply accepts it. -/
theorem judge_eq_ok_iff (p : Pager) (r : Http.Request) (o : Http.Outcome) :
    p.judge r o = .ok () ↔ ∃ reply, o = .reply reply ∧ p.accepts reply = true := by
  cases o with
  | dropped => cases p <;> simp [judge]
  | reply reply =>
      cases haccepts : p.accepts reply with
      | true => simp [judge, haccepts]
      | false => cases p <;> simp [judge, haccepts]

/-- A page has no request only if it goes to PagerDuty and the address of its events cannot be
read. -/
theorem request_eq_error_iff (p : Pager) (incident : String) (own : Option Settings.OnCall) :
    (∃ e, p.request incident own = .error e) ↔
      ∃ settings source e, p = .pagerDuty settings source ∧
        Http.Address.read settings.eventsUrl = .error e := by
  cases p with
  | incidentManager settings => simp [request]
  | pagerDuty settings source =>
      unfold request Http.Request.post
      cases haddress : Http.Address.read settings.eventsUrl with
      | error e => cases e <;> simp [haddress]
      | ok address => simp [haddress]

/-- The requests of a page, over every wire. Only a page to PagerDuty whose address cannot be read
has none, and that one fails. Every other page sends one request, at least once and nothing else. It
sends it again as long as the failure may pass and an attempt is left, and it succeeds exactly if
the last reply accepts it. So it sends its request exactly once if there is one attempt, or if what
came of the first one is no failure that may pass, and never again after a success. PagerDuty has
one attempt, and the incident manager as many as its policy allows. -/
theorem page_attempts (wire : Wire σ) (p : Pager) (incident : String)
    (own : Option Settings.OnCall) (s : σ) :
    let page := p.trigger wire.logged incident own (s, [])
    let sent := page.2.2
    ((∃ e, p.request incident own = .error e) ↔ ∃ settings source e,
        p = .pagerDuty settings source ∧ Http.Address.read settings.eventsUrl = .error e) ∧
      (∀ e, p.request incident own = .error e → page.1 = .error e ∧ sent = []) ∧
      ∀ r, p.request incident own = .ok r → ∃ passed last,
        sent = (passed ++ [last]).map (r, ·) ∧ p.retry.Attempted p.retry.attempts passed last ∧
        (page.1 = .ok () ↔ ∃ reply, last = .reply reply ∧ p.accepts reply = true) ∧
        (sent.length = 1 ↔
          p.retry.attempts = 1 ∨ ∀ x ∈ sent.head?, p.retry.mayPass x.2 = false) ∧
        ∀ reply, .reply reply ∈ passed → Http.isSuccess reply.status = false := by
  intro page sent
  refine ⟨p.request_eq_error_iff incident own, ?_, ?_⟩
  · intro e he
    simp only [sent, page, trigger, he, and_self]
  · intro r hr
    obtain ⟨left, hleft⟩ := p.retry.exists_attempts
    obtain ⟨passed, hsent, hattempted⟩ := p.retry.exchange_attempts wire r left (s, [])
    rw [← hleft] at hsent hattempted
    have hpage : page = (p.judge r (p.retry.exchange wire.logged r p.retry.attempts (s, [])).1,
        (p.retry.exchange wire.logged r p.retry.attempts (s, [])).2) := by
      simp only [page, trigger, hr]
    generalize (p.retry.exchange wire.logged r p.retry.attempts (s, [])).1 = last
      at hsent hattempted hpage
    have hlog : sent = (passed ++ [last]).map (r, ·) := by
      simp only [sent, hpage, hsent, List.nil_append]
    refine ⟨passed, last, hlog, hattempted, ?_, ?_, fun reply => hattempted.not_isSuccess⟩
    · rw [hpage]
      exact p.judge_eq_ok_iff r last
    · rw [hlog]
      exact hattempted.length_eq_one_iff r

/-- A page that meets an overloaded incident manager is sent a second time, and then succeeds. -/
theorem overloaded_page_repeated :
    let s : Settings := { onCall := { incidentManager := { responsePlan := "arn:plan" } } }
    let wire : Wire DrillWire := DrillWire.wire id fun _ w => w
    let overloaded : DrillWire := { script := [.reply { status := 500 }] }
    ∃ p, Pager.create s = .ok p ∧
      let page := p.trigger wire.logged "i" none (overloaded, [])
      page.1 = .ok () ∧ page.2.2.length = 2 :=
  ⟨_, rfl, rfl, rfl⟩

end Pager

end IncidentRelay
