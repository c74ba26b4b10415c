import IncidentRelay.Drill.Site
import IncidentRelay.Proofs.Interleaving.Ledger

/-!
# One winner for each record

An acknowledgment and the checks of an incident compete for its record. Looking for the record
decides nothing, as any number of operations can see it. Its removal decides: the operation that
removes the record has won, and it goes on to its success or to its page.

## Main statements

* `Operation.process_fair`: an acknowledgment and a check compete by the rules.
* `Pool.Sound.run`: what the calls of every operation leave behind in a run.
* `Pool.single_winner`: between two wins the record is written, unless a check was overtaken.
* `Pool.overtaken_check_pages`: how a check is overtaken.
-/

namespace IncidentRelay

variable {κ : Type}

/-! ### The rules of the competition -/

/-- Where an operation stands between two calls: only a check can still owe its win, as an
acknowledgment has nothing left to call once it has removed the record. -/
def Standing.Rests (op : Operation κ) (st : Standing) : Prop :=
  st = .claimed → ∃ incident settings, op = .check incident settings

namespace Process

/-- A process of an operation that competes for one record by the rules: it removes no other and
this one only once, and right after that, again only once, it reports success or, if it is a check,
pages. -/
def Fair (op : Operation κ) (incident : String) : Standing → Process κ Answer → Prop
  | st, .done r => r = .acknowledged (.ok ()) ↔ st = .claimed
  | st, .call (.remove key) next =>
    key = incident ∧ st = .free ∧ (next (.ok true)).Fair op incident .claimed ∧
      (next (.ok false)).Fair op incident .free ∧ ∀ e, (next (.error e)).Fair op incident .free
  | st, .call (.page i settings) next =>
    i = incident ∧ st = .claimed ∧ op = .check incident settings ∧
      ∀ r, (next r).Fair op incident .spent
  | st, .call (.count _) next => ∀ r, (next r).Fair op incident st
  | st, .call _ next => st ≠ .claimed ∧ ∀ r, (next r).Fair op incident st

variable {op : Operation κ} {incident : String} {n : Nat} {st : Standing} {h : List Mark}

/-- What follows a call at once goes on by the rules. -/
theorem Fair.settle {p : Process κ Answer} (hf : p.Fair op incident st) (w : World Memory) :
    (p.settle w).1.Fair op incident st := by
  induction p generalizing w with
  | done a => exact hf
  | call c next ih =>
      cases c with
      | count event => exact ih () (hf ()) _
      | arm incident settings after => exact ih () (hf.2 ()) _
      | _ => exact hf

/-- A call by the rules leaves a standing from which the process goes on by the rules, whatever the
call was answered. -/
theorem Fair.call {c : Call κ} {next : c.Reply → Process κ Answer}
    (hf : (Process.call c next).Fair op incident st) (hs : st.Shows incident n h)
    (hop : op.claims? = some incident) (now : Nat) (r : c.Reply) :
    ∃ st' : Standing, st'.Shows incident n (h ++ Mark.history n (Mark.ofCall n op now c r)) ∧
      (next r).Fair op incident st' := by
  cases c with
  | put key marker ttl =>
      refine ⟨st, ?_, hf.2 r⟩
      cases r <;> simpa [Mark.ofCall, Mark.history, Mark.maker?] using hs
  | present key => exact ⟨st, by simpa [Mark.ofCall, Mark.history] using hs, hf.2 r⟩
  | remove key =>
      obtain ⟨rfl, rfl, htrue, hfalse, herror⟩ := hf
      obtain rfl : h = [] := hs
      cases r with
      | error e => exact ⟨.free, by simp [Standing.Shows, Mark.ofCall, Mark.history], herror e⟩
      | ok removed =>
          cases removed with
          | false => exact ⟨.free, by simp [Standing.Shows, Mark.ofCall, Mark.history], hfalse⟩
          | true =>
              refine ⟨.claimed, ?_, htrue⟩
              simp [Standing.Shows, Mark.ofCall, Mark.history, Mark.maker?]
  | page i settings =>
      obtain ⟨rfl, rfl, -, hnext⟩ := hf
      obtain rfl : h = [.claimed i n] := hs
      exact ⟨.spent, .inr (by simp [Mark.ofCall, Mark.history, Mark.maker?, hop]), hnext r⟩
  | send channel i =>
      refine ⟨st, ?_, hf.2 r⟩
      cases r <;> simpa [Mark.ofCall, Mark.history, Mark.maker?] using hs
  | arm i settings after => exact ⟨st, by simpa [Mark.ofCall, Mark.history] using hs, hf.2 r⟩
  | count event => exact ⟨st, by simpa [Mark.ofCall, Mark.history] using hs, hf r⟩

/-- Where a process stands once its success is marked. -/
theorem Fair.ofEnd {p : Process κ Answer} {w : World Memory}
    (hf : (p.settle w).1.Fair op incident st) (hs : st.Shows incident n h)
    (hop : op.claims? = some incident) :
    ∃ st' : Standing,
      st'.Shows incident n (h ++ Mark.history n (Mark.ofEnd n op (p.settle w).1)) ∧
        st'.Rests op ∧ ∀ c next, (p.settle w).1 = .call c next →
          (Process.call c next).Fair op incident st' := by
  cases hp : (p.settle w).1 with
  | done r =>
      rw [hp] at hf
      cases op with
      | start | create => simp [Operation.claims?] at hop
      | acknowledge i =>
          obtain rfl : i = incident := Option.some.inj hop
          by_cases hr : r = .acknowledged (.ok ())
          · obtain rfl : st = .claimed := hf.mp hr
            obtain rfl : h = [.claimed i n] := hs
            subst hr
            refine ⟨.spent, .inl (by simp [Mark.ofEnd, Mark.history, Mark.maker?]), ?_, ?_⟩
            · rintro ⟨⟩
            · rintro c next ⟨⟩
          · have hend : Mark.ofEnd n (.acknowledge i) (.done (κ := κ) r) = [] := by
              unfold Mark.ofEnd
              split
              · next heq => exact absurd (Process.done.inj heq) hr
              · rfl
            refine ⟨st, ?_, fun hst => absurd (hf.mpr hst) hr, ?_⟩
            · simpa [hend, Mark.history] using hs
            · rintro c next ⟨⟩
      | check i settings =>
          refine ⟨st, ?_, fun _ => ⟨i, settings, rfl⟩, ?_⟩
          · simpa [Mark.ofEnd, Mark.history] using hs
          · rintro c next ⟨⟩
  | call c next =>
      have hend : Mark.ofEnd n op (Process.call c next) = [] := by
        cases op <;> rfl
      rw [hp] at hf
      refine ⟨st, by simpa [hend, Mark.history] using hs, ?_, ?_⟩
      · rintro rfl
        cases c with
        | page i settings => exact ⟨incident, settings, hf.2.2.1⟩
        | count event => exact absurd hp (settle_ne_count p w event next)
        | remove key => cases hf.2.1
        | put | present | send | arm => exact absurd rfl hf.1
      · rintro c' next' hq
        exact hq ▸ hf

end Process

/-- An operation that competes for a record does so by the rules. -/
theorem Operation.process_fair {op : Operation κ} {incident : String}
    (h : op.claims? = some incident) : op.process.Fair op incident .free := by
  cases op with
  | start | create => simp [claims?] at h
  | acknowledge i =>
      obtain rfl : i = incident := Option.some.inj h
      refine ⟨nofun, ?_⟩
      intro r
      match r with
      | .error e => exact ⟨nofun, nofun⟩
      | .ok false => exact fun _ => ⟨nofun, nofun⟩
      | .ok true =>
          refine ⟨rfl, rfl, ?_, ?_, ?_⟩
          · exact fun _ => ⟨fun _ => rfl, fun _ => rfl⟩
          · exact fun _ => ⟨nofun, nofun⟩
          · exact fun e => ⟨nofun, nofun⟩
  | check i settings =>
      obtain rfl : i = incident := Option.some.inj h
      refine ⟨nofun, ?_⟩
      intro r
      match r with
      | .error e | .ok false => exact ⟨nofun, nofun⟩
      | .ok true =>
          refine ⟨rfl, rfl, ⟨rfl, rfl, rfl, ?_⟩, ⟨nofun, nofun⟩, fun e => ⟨nofun, nofun⟩⟩
          intro r
          cases r <;> exact fun _ => ⟨nofun, nofun⟩

/-! ### What every run keeps -/

/-- The marks of a step are marks of the operation that made it. -/
theorem Mark.history_step_of_ne {m n : Nat} (h : m ≠ n) (op : Operation κ) (now : Nat) (c : Call κ)
    (r : c.Reply) (left : Process κ Answer) :
    history m (ofCall n op now c r ++ ofEnd n op left) = [] := by
  have hcall : history m (ofCall n op now c r) = [] := by
    unfold ofCall
    split
    · simp [history, maker?]
    · simp [history, maker?, h.symm]
    · simp [history, maker?]
    · split <;> simp [history, maker?, h.symm]
    · rfl
  have hend : history m (ofEnd n op left) = [] := by
    unfold ofEnd
    split <;> simp [history, maker?, h.symm]
  rw [history_append, hcall, hend, List.append_nil]

/-- What an operation leaves behind that does not compete for records belongs to no history. -/
theorem Mark.history_step_of_bystander {op : Operation κ} {c : Call κ} (hop : op.claims? = none)
    (hc : op.Allows c) (m n now : Nat) (r : c.Reply) (left : Process κ Answer) :
    history m (ofCall n op now c r ++ ofEnd n op left) = [] := by
  have hcall : history m (ofCall n op now c r) = [] := by
    unfold ofCall
    split
    · simp [history, maker?]
    · simp [Operation.Allows, hop] at hc
    · simp [history, maker?]
    · simp [history, hop]
    · rfl
  have hend : history m (ofEnd n op left) = [] := by
    unfold ofEnd
    split
    · simp [Operation.claims?] at hop
    · rfl
  rw [history_append, hcall, hend, List.append_nil]

/-- What a call does to the ledger: wherever a record is afterwards, the ledger knows of it. -/
theorem Mark.ledger_of_call (incident : String) (f : Fortune) (n : Nat) (op : Operation κ)
    (c : Call κ) (w : World Memory) {there : Bool}
    (h : (w.outside.get? incident).isSome → there = true) :
    let a := World.answer f.services c w
    ∃ after, ledger incident there (ofCall n op w.now c a.1) = some after ∧
      ((a.2.outside.get? incident).isSome → after = true) := by
  have same : ledger incident there [] = some there := rfl
  cases c with
  | put key marker ttl =>
      cases hf : f.fault with
      | some e =>
          simp only [World.answer, Fortune.services, hf, ofCall]
          exact ⟨there, same, h⟩
      | none =>
          simp only [World.answer, Fortune.services, hf, ofCall, Memory.put_eq, Table.get?_insert]
          refine ⟨key = incident || there, rfl, ?_⟩
          by_cases hk : key = incident
          · simp [hk]
          · simpa [hk] using h
  | present key =>
      cases hf : f.fault <;> simp only [World.answer, Fortune.services, hf, ofCall] <;>
        exact ⟨there, same, h⟩
  | remove key =>
      cases hf : f.fault with
      | some e =>
          simp only [World.answer, Fortune.services, hf, ofCall]
          exact ⟨there, same, h⟩
      | none =>
          simp only [World.answer, Fortune.services, hf, Memory.remove, Table.get?_erase]
          by_cases hk : key = incident
          · subst hk
            cases hg : w.outside.get? key with
            | none => exact ⟨there, rfl, by simp⟩
            | some v =>
                obtain rfl : there = true := h (by simp [hg])
                exact ⟨false, by simp [ofCall, ledger, follow], by simp⟩
          · cases hg : w.outside.get? key with
            | none => exact ⟨there, rfl, by simpa [hk] using h⟩
            | some v =>
                exact ⟨there, by simp [ofCall, ledger, follow, hk], by simpa [hk] using h⟩
  | page i settings =>
      refine ⟨there, ?_, h⟩
      simp only [ofCall]
      split <;> rfl
  | send channel i =>
      refine ⟨there, ?_, h⟩
      simp only [World.answer, Fortune.services]
      cases f.channel <;> rfl
  | arm i settings after => exact ⟨there, same, h⟩
  | count event => exact ⟨there, same, h⟩

/-- The marks of the operation's end do not touch the ledger. -/
theorem Mark.ledger_of_end (incident : String) (n : Nat) (op : Operation κ)
    (left : Process κ Answer) (there : Bool) :
    ledger incident there (ofEnd n op left) = some there := by
  unfold ofEnd
  split <;> rfl

/-- What the marks of an operation have to do with what it still has to do. -/
inductive Task.Sound (log : List Mark) (n : Nat) (t : Task κ) : Prop
  | bystander (hop : t.operation.claims? = none) (hhistory : Mark.history n log = [])
  | rival {incident : String} (st : Standing) (hop : t.operation.claims? = some incident)
      (hshows : st.Shows incident n (Mark.history n log)) (hrests : st.Rests t.operation)
      (hfair : ∀ c next, t.left = some (.call c next) →
        (Process.call c next).Fair t.operation incident st)

namespace Task.Sound

variable {log log' : List Mark} {n : Nat} {t : Task κ}

/-- A call keeps the operation that makes it sound. -/
theorem call {op : Operation κ} {c : Call κ} {next : c.Reply → Process κ Answer}
    (h : Task.Sound log n ⟨op, some (.call c next)⟩) (hc : op.Allows c) (now : Nat)
    (r : c.Reply) (w : World Memory) :
    Task.Sound (log ++ (Mark.ofCall n op now c r ++ Mark.ofEnd n op ((next r).settle w).1)) n
      ⟨op, some ((next r).settle w).1⟩ := by
  cases h with
  | bystander hop hhistory =>
      refine .bystander hop ?_
      rw [Mark.history_append, hhistory, Mark.history_step_of_bystander hop hc, List.append_nil]
  | rival st hop hshows hrests hfair =>
      obtain ⟨st', hshows', hfair'⟩ := (hfair c next rfl).call hshows hop now r
      obtain ⟨st'', hshows'', hrests'', hfair''⟩ := (hfair'.settle w).ofEnd hshows' hop
      refine .rival st'' hop ?_ hrests'' ?_
      · rw [Mark.history_append, Mark.history_append, ← List.append_assoc]
        exact hshows''
      · intro c' next' hq
        exact hfair'' c' next' (Option.some.inj hq)

/-- The marks of others change nothing about an operation. -/
theorem of_history (h : t.Sound log n) (same : Mark.history n log' = Mark.history n log) :
    t.Sound log' n := by
  cases h with
  | bystander hop hhistory => exact .bystander hop (same.trans hhistory)
  | rival st hop hshows hrests hfair => exact .rival st hop (same ▸ hshows) hrests hfair

/-- An abandoned operation has nothing left to do. -/
theorem abandon (h : t.Sound log n) : Task.Sound log n { t with left := none } := by
  cases h with
  | bystander hop hhistory => exact .bystander hop hhistory
  | rival st hop hshows hrests hfair => exact .rival st hop hshows hrests nofun

/-- An acknowledgment that comes back with success has just removed the record. -/
theorem ofCall_of_success {op : Operation κ} {c : Call κ} {next : c.Reply → Process κ Answer}
    (h : Task.Sound log n ⟨op, some (.call c next)⟩) {now : Nat} {r : c.Reply}
    {w : World Memory} {incident : String} {k : Nat}
    (hend : .acknowledged incident k ∈ Mark.ofEnd n op ((next r).settle w).1) :
    Mark.ofCall n op now c r = [.claimed incident k] ∧
      Mark.ofEnd n op ((next r).settle w).1 = [.acknowledged incident k] := by
  obtain ⟨rfl, rfl, hdone⟩ : op = .acknowledge incident ∧ k = n ∧
      ((next r).settle w).1 = .done (.acknowledged (.ok ())) := by
    unfold Mark.ofEnd at hend
    split at hend
    · next heq => simp_all
    · simp at hend
  refine ⟨?_, by rw [hdone]; rfl⟩
  cases h with
  | bystander hop => simp [Operation.claims?] at hop
  | rival st hop hshows hrests hfair =>
      obtain rfl := Option.some.inj hop
      have hcall := hfair c next rfl
      obtain ⟨st', hshows', hfair'⟩ := hcall.call (n := k) hshows hop now r
      have hclaimed : st' = .claimed := by
        have := hfair'.settle w
        rw [hdone] at this
        exact this.mp rfl
      subst hclaimed
      have hnow : Mark.history k (Mark.ofCall k (.acknowledge incident) now c r) =
          [.claimed incident k] := by
        cases st with
        | free =>
            have hnone : Mark.history k log = [] := hshows
            simpa [hnone, Standing.Shows] using hshows'
        | claimed =>
            obtain ⟨_, _, hcheck⟩ := hrests rfl
            cases hcheck
        | spent => rcases hshows with hs | hs <;> simp [hs, Standing.Shows] at hshows'
      cases c with
      | remove key =>
          obtain ⟨rfl, -⟩ := hcall
          cases r with
          | error e => simp [Mark.ofCall, Mark.history] at hnow
          | ok removed =>
              cases removed with
              | false => simp [Mark.ofCall, Mark.history] at hnow
              | true => rfl
      | page i settings => cases hcall.2.2.1
      | put | send => cases r <;> simp [Mark.ofCall, Mark.history, Mark.maker?] at hnow
      | present | arm | count => simp [Mark.ofCall, Mark.history] at hnow

end Task.Sound

/-- A call alone is no success. -/
theorem Mark.acknowledged_notMem_ofCall (n : Nat) (op : Operation κ) (now : Nat) (c : Call κ)
    (r : c.Reply) (incident : String) (k : Nat) :
    .acknowledged incident k ∉ ofCall n op now c r := by
  unfold ofCall
  split
  · simp
  · simp
  · simp
  · split <;> simp
  · simp

/-- What holds of a pool after every run. -/
structure Pool.Sound (p : Pool κ) : Prop where
  lawful : p.Lawful
  tasks : EachTask (Task.Sound p.log) p.tasks
  unissued : ∀ n, p.tasks.length ≤ n → Mark.history n p.log = []
  prompt : Mark.Prompt p.log
  ledger : ∀ incident, ∃ there, Mark.ledger incident false p.log = some there ∧
    ((p.world.outside.get? incident).isSome → there = true)

namespace Pool

/-- Before anything was issued the pool is sound. -/
theorem Sound.empty : ({} : Pool κ).Sound where
  lawful := EachTask.nil
  tasks := EachTask.nil
  unissued n _ := rfl
  prompt incident n front back h := by simp at h
  ledger incident := ⟨false, rfl, by simp [Table.get?]⟩

/-- An operation is sound when it is issued. -/
theorem Sound.issue {p : Pool κ} (h : p.Sound) (op : Operation κ) : (p.issue op).Sound := by
  have hnew : Task.Sound p.log p.tasks.length ⟨op, some (op.process.settle p.world).1⟩ := by
    have hhistory := h.unissued _ (Nat.le_refl _)
    cases hop : op.claims? with
    | none => exact .bystander hop hhistory
    | some i =>
        refine .rival .free hop hhistory nofun ?_
        intro c next hq
        exact Option.some.inj hq ▸ (Operation.process_fair hop).settle _
  refine ⟨h.lawful.issue op, h.tasks.append hnew, ?_, h.prompt, ?_⟩
  · intro n hn
    refine h.unissued n ?_
    simp [Pool.issue] at hn
    omega
  · intro incident
    obtain ⟨there, hl, ht⟩ := h.ledger incident
    exact ⟨there, hl, by simpa [Pool.issue] using ht⟩

/-- A call keeps the pool sound. -/
theorem Sound.call {p : Pool κ} (h : p.Sound) (n : Nat) (f : Fortune) : (p.call n f).Sound := by
  have lawful := h.lawful.call n f
  by_cases hn : ∃ op c next, p.tasks[n]? = some ⟨op, some (.call c next)⟩
  · obtain ⟨op, c, next, hn⟩ := hn
    have hlt : n < p.tasks.length := (List.getElem?_eq_some_iff.mp hn).1
    have hc : op.Allows c := (h.lawful n _ hn _ rfl).1
    rw [call_of_next hn] at lawful ⊢
    refine ⟨lawful, ?_, ?_, ?_, ?_⟩
    · refine h.tasks.set ?_ ((h.tasks n _ hn).call hc _ _ _)
      intro m u hm hu
      refine hu.of_history ?_
      rw [Mark.history_append, Mark.history_step_of_ne hm, List.append_nil]
    · intro m hm
      rw [List.length_set] at hm
      rw [Mark.history_append, Mark.history_step_of_ne (by omega), List.append_nil]
      exact h.unissued m hm
    · exact h.prompt.step (Mark.acknowledged_notMem_ofCall n op _ c _) fun _ _ =>
        (h.tasks n _ hn).ofCall_of_success
    · intro incident
      obtain ⟨there, hl, ht⟩ := h.ledger incident
      obtain ⟨after, ha, ht'⟩ := Mark.ledger_of_call incident f n op c p.world ht
      refine ⟨after, ?_, by simpa using ht'⟩
      rw [Mark.ledger_append, hl, Option.bind_some, Mark.ledger_append, ha, Option.bind_some]
      exact Mark.ledger_of_end incident n op _ after
  · rw [call_of_over fun op c next hop => hn ⟨op, c, next, hop⟩]
    exact h

/-- Abandoning an operation keeps the pool sound. -/
theorem Sound.abandon {p : Pool κ} (h : p.Sound) (n : Nat) : (p.abandon n).Sound := by
  have lawful := h.lawful.move (.abandon n)
  unfold Pool.move Pool.abandon at lawful
  unfold Pool.abandon
  dsimp only at lawful
  split
  · next t ht =>
      refine ⟨by simpa [ht] using lawful, ?_, ?_, h.prompt, h.ledger⟩
      · exact h.tasks.set (fun _ _ _ hu => hu) (h.tasks n t ht).abandon
      · intro m hm
        exact h.unissued m (by simpa using hm)
  · exact h

/-- A pool stays sound when checks are disarmed, time passes, and records are lost. -/
theorem Sound.of_world {p : Pool κ} (h : p.Sound) (w : World Memory)
    (hw : ∀ incident, (w.outside.get? incident).isSome → (p.world.outside.get? incident).isSome) :
    Sound { p with world := w } where
  lawful := h.lawful
  tasks := h.tasks
  unissued := h.unissued
  prompt := h.prompt
  ledger incident := by
    obtain ⟨there, hl, ht⟩ := h.ledger incident
    exact ⟨there, hl, fun hi => ht (hw incident hi)⟩

/-- Every move keeps a pool sound. -/
theorem Sound.move {p : Pool κ} (h : p.Sound) (m : Move κ) : (p.move m).Sound := by
  cases m with
  | issue op => exact h.issue op
  | call n f => exact h.call n f
  | abandon n => exact h.abandon n
  | wake k =>
      unfold Pool.move Pool.wake
      dsimp only
      split
      · split
        · next a _ _ =>
            exact (h.of_world { p.world with armed := p.world.armed.eraseIdx k }
              fun _ hi => hi).issue (.check a.incident a.settings)
        · exact h
      · exact h
  | wait seconds => exact h.of_world _ fun _ hi => hi
  | drop key =>
      refine h.of_world _ fun incident hi => ?_
      rw [Table.get?_erase] at hi
      split at hi
      · simp at hi
      · exact hi

/-- Every run keeps a pool sound. -/
theorem Sound.run {p : Pool κ} (h : p.Sound) (moves : List (Move κ)) : (p.run moves).Sound := by
  induction moves generalizing p with
  | nil => exact h
  | cons m rest ih => exact ih (h.move m)

end Pool

namespace Pool

/-- After every run each operation has removed before it won. -/
theorem Sound.regular {p : Pool κ} (h : p.Sound) : Mark.Regular p.log := by
  intro n
  cases ht : p.tasks[n]? with
  | none => exact ⟨"", .free, h.unissued n (List.getElem?_eq_none_iff.mp ht)⟩
  | some t =>
      cases h.tasks n t ht with
      | bystander _ hhistory => exact ⟨"", .free, hhistory⟩
      | rival st _ hshows _ _ => exact ⟨_, st, hshows⟩

/-- Single winner. Whatever operations run on whatever instances, however their calls interleave,
and whichever of them fail or are abandoned: who wins has removed the record before, once, and wins
once. Between two removals of an incident's record, and before the first, it is written. So at every
moment there have been no more wins than writes, and a record that is written once has one winner at
most.

A win is decided by the removal. For an acknowledgment that is its last call; a check pages by a
later one, and if the record is written again in between, others can win it before the page goes
out. There is no other way for two wins to have no write between them. -/
theorem single_winner (moves : List (Move κ)) (incident : String) :
    let log := (({} : Pool κ).run moves).log
    (∀ x ∈ log, ∀ n, x.winner? incident = some n →
        Mark.history n log = [.claimed incident n, x]) ∧
      (∀ front mid back n m,
        log = front ++ .claimed incident n :: (mid ++ .claimed incident m :: back) →
          ∃ t, .stored incident t ∈ mid) ∧
      (∀ front back n, log = front ++ .claimed incident n :: back →
        ∃ t, .stored incident t ∈ front) ∧
      (∀ front mid back x y n m, log = front ++ x :: (mid ++ y :: back) →
        x.winner? incident = some n → y.winner? incident = some m →
          (∃ t, .stored incident t ∈ mid) ∨ Mark.Overtaken incident n log ∨
            Mark.Overtaken incident m log) ∧
      (∀ front back x n, log = front ++ x :: back → x.winner? incident = some n →
        ∃ t, .stored incident t ∈ front) ∧
      (∀ front back, log = front ++ back →
        (Mark.winners incident front).length ≤ Mark.writes incident front) ∧
      (Mark.writes incident log ≤ 1 → (Mark.winners incident log).length ≤ 1) := by
  intro log
  have sound : (({} : Pool κ).run moves).Sound := Sound.empty.run moves
  have regular : Mark.Regular log := sound.regular
  obtain ⟨there, hledger, -⟩ := sound.ledger incident
  have hledger : Mark.ledger incident false log = some there := hledger
  have hsome : Mark.ledger incident false log ≠ none := by simp [hledger]
  have first : ∀ front back n, log = front ++ .claimed incident n :: back →
      ∃ t, .stored incident t ∈ front := by
    intro front back n hlog
    rw [hlog] at hsome
    exact Mark.stored_mem_of_ledger (Mark.ledger_of_claimed hsome).1
  have counts : ∀ front back, log = front ++ back →
      (Mark.winners incident front).length ≤ Mark.writes incident front := by
    intro front back hlog
    rw [hlog] at regular hsome
    have hwins := regular.of_append.winners_length_le incident
    cases hf : Mark.ledger incident false front with
    | none => simp [Mark.ledger_append, hf] at hsome
    | some after =>
        have hclaims := Mark.claimants_length_le hf
        rw [Bool.toNat_false] at hclaims
        omega
  refine ⟨?_, ?_, first, ?_, ?_, counts, ?_⟩
  · intro x hx n hw
    exact regular.history_of_winner hx hw
  · intro front mid back n m hlog
    exact Mark.stored_between (hlog ▸ hsome)
  · intro front mid back x y n m hlog hx hy
    have prompt : Mark.Prompt log := sound.prompt
    rw [hlog] at regular prompt hsome ⊢
    exact regular.stored_between_wins prompt hsome hx hy
  · intro front back x n hlog hw
    rw [hlog] at regular
    have hclaim := Mark.mem_of_history (regular.around_winner hw).1
    obtain ⟨f₁, f₂, rfl⟩ := List.append_of_mem hclaim
    obtain ⟨t, ht⟩ := first f₁ (f₂ ++ x :: back) n (by simpa using hlog)
    exact ⟨t, by simp [ht]⟩
  · intro honce
    have := counts log [] (List.append_nil log).symm
    omega

/-- Two acknowledgments that both see the record, and a check after it was written again. -/
def acknowledgedThenPaged : List (Move Unit) :=
  [.issue (.start "a" { waitMinutes := 1 }), .call 0 {},
    .issue (.acknowledge "a"), .issue (.acknowledge "a"), .call 1 {}, .call 2 {}, .call 2 {},
    .call 1 {}, .issue (.start "a" { waitMinutes := 1 }), .call 3 {}, .wait 60, .wake 0,
    .call 4 {}, .call 4 {}, .call 4 {}]

/-- There are two winners, and the record was written between their removals. -/
theorem single_winner_acknowledgedThenPaged :
    Mark.winners "a" (({} : Pool Unit).run acknowledgedThenPaged).log = [2, 4] ∧
      ∃ t, .stored "a" t ∈ [Mark.acknowledged "a" 2, .stored "a" 0] :=
  ⟨by decide, (single_winner acknowledgedThenPaged "a").2.1 [.stored "a" 0]
    [.acknowledged "a" 2, .stored "a" 0] [.paged "a" 4] 2 4 (by decide)⟩

/-- A check that has removed the record and goes on to page only after the record was written again
and the new one was acknowledged. -/
def overtakenCheck : List (Move Unit) :=
  [.issue (.start "a" { waitMinutes := 1 }), .call 0 {}, .wait 60, .wake 0, .call 1 {}, .call 1 {},
    .issue (.start "a" { waitMinutes := 1 }), .call 2 {},
    .issue (.acknowledge "a"), .call 3 {}, .call 3 {}, .call 1 {}]

/-- A check that is overtaken pages after the acknowledgment of the new record, and there is no
write between these two wins. And one page of a check can reach those on call twice: the incident
manager is asked again after a failure. -/
theorem overtaken_check_pages :
    let log := (({} : Pool Unit).run overtakenCheck).log
    log = [.stored "a" 0, .claimed "a" 1, .stored "a" 60, .claimed "a" 3, .acknowledged "a" 3,
        .paged "a" 1] ∧
      (¬ ∀ front mid back x y n m, log = front ++ x :: (mid ++ y :: back) →
        x.winner? "a" = some n → y.winner? "a" = some m → ∃ t, .stored "a" t ∈ mid) ∧
      let onCall : Settings.OnCall :=
        { waitMinutes := 1, incidentManager := { responsePlan := "arn:plan" } }
      let w : World Site := { outside := { wire := { script := [.reply { status := 500 }] } } }
      ∃ p, Pager.create { onCall } = .ok p ∧
        let services := Site.withPager p (Site.withMemory (Site.standIns []))
        let pending := (w.perform services (Escalation.start "a" onCall)).2
        let checked := (pending.perform services (Escalation.check "a" onCall)).2
        checked.outside.wire.requests.length = 2 := by
  intro log
  have hlog : log = [.stored "a" 0, .claimed "a" 1, .stored "a" 60, .claimed "a" 3,
      .acknowledged "a" 3, .paged "a" 1] := by
    decide
  refine ⟨hlog, ?_, _, rfl, rfl⟩
  intro hstored
  obtain ⟨t, ht⟩ := hstored [.stored "a" 0, .claimed "a" 1, .stored "a" 60, .claimed "a" 3] [] []
    (.acknowledged "a" 3) (.paged "a" 1) 3 1 hlog rfl rfl
  cases ht

end Pool

end IncidentRelay
