import IncidentRelay.Proofs.Interleaving.Ledger
import IncidentRelay.Proofs.Interleaving.Steps

/-!
# Acknowledging through a delivered link

An alert takes its link to the channels before its record is written, so its acknowledgments fall
into phases. While the alert is still being sent they find nothing. Once the record is written the
window is open: the first acknowledgment that makes both its calls removes the record. From then on
the record is gone for good, and the check finds nothing. An acknowledgment that has seen the record
before the deadline but removes it only later competes with the check.

## Main statements

* `Pool.Sending.run`, `Pool.Sending.write`, `Pool.Open.run`, `Pool.Contested.run`, `Pool.Taken.run`:
  the phases.
* `Pool.acknowledged_before_deadline`: in an open window an acknowledgment is not lost, unless the
  check is faster.
* `Pool.acknowledged_too_early`: before that it can be.
-/

namespace IncidentRelay

variable {κ : Type}

/-! ### Undisturbed moves -/

/-- A move that leaves the acknowledgment of an incident undisturbed: the store and the channels
work, the store keeps the record, nothing is abandoned, and of the operations on the incident only
acknowledgments are issued. -/
def Move.Undisturbed (incident : String) : Move κ → Prop
  | .issue op => op.incident ≠ incident ∨ op = .acknowledge incident
  | .call _ f => f.fault = none ∧ f.channel = .ok ()
  | .abandon _ => False
  | .drop key => key ≠ incident
  | .wake _ | .wait _ => True

/-- Whether a move is a call of an operation. -/
def Move.isCallOf (n : Nat) : Move κ → Bool
  | .call m _ => m = n
  | _ => false

/-- A call of an operation is a call of it with some fortune. -/
theorem Move.eq_call_of_isCallOf {n : Nat} {m : Move κ} (h : m.isCallOf n = true) :
    ∃ f, m = .call n f := by
  cases m with
  | call k f => exact ⟨f, by simpa [isCallOf] using h⟩
  | _ => simp [isCallOf] at h

namespace Pool

variable {p : Pool κ} {n : Nat} {incident : String}

/-- What an operation has left to do changes by its own calls only. -/
theorem getElem?_tasks_move {t : Task κ} (hn : p.tasks[n]? = some t) {m : Move κ}
    (hm : m.Undisturbed incident) (hcall : m.isCallOf n = false) :
    (p.move m).tasks[n]? = some t := by
  have hlt : n < p.tasks.length := (List.getElem?_eq_some_iff.mp hn).1
  cases m with
  | issue op =>
      simpa [Pool.move, Pool.issue, List.getElem?_append_left hlt] using hn
  | call k f =>
      have hk : k ≠ n := by simpa [Move.isCallOf] using hcall
      cases ht : p.tasks[k]? with
      | none =>
          have hsame : p.call k f = p := call_of_over (by simp [ht]) f
          simpa [Pool.move, hsame] using hn
      | some u =>
          obtain ⟨left, htasks⟩ := tasks_call ht f
          rw [Pool.move, htasks, List.getElem?_set_ne hk]
          exact hn
  | abandon k => exact hm.elim
  | wake k =>
      unfold Pool.move Pool.wake
      dsimp only
      split
      · split
        · simpa [Pool.issue, List.getElem?_append_left hlt] using hn
        · exact hn
      · exact hn
  | wait | drop => exact hn

/-- An operation stays the same one, whatever it has left to do. -/
theorem exists_left_move {t : Task κ} (hn : p.tasks[n]? = some t) {m : Move κ}
    (hm : m.Undisturbed incident) : ∃ left, (p.move m).tasks[n]? = some { t with left } := by
  cases hcall : m.isCallOf n with
  | true =>
      obtain ⟨f, rfl⟩ := Move.eq_call_of_isCallOf hcall
      obtain ⟨left, htasks⟩ := tasks_call hn f
      refine ⟨left, ?_⟩
      rw [Pool.move, htasks, List.getElem?_set_self (List.getElem?_eq_some_iff.mp hn).1]
  | false => exact ⟨t.left, getElem?_tasks_move hn hm hcall⟩

/-- An acknowledgment that is over after a number of its calls. -/
def Within (incident : String) (n b : Nat) (p : Pool κ) : Prop :=
  p.tasks[n]? = some (.asking incident) ∧ 2 ≤ b ∨ p.tasks[n]? = some (.removing incident) ∧ 1 ≤ b ∨
    p.tasks[n]? = some (.answered incident (.ok ())) ∨
      p.tasks[n]? = some (.answered incident (.error (.notFound incident)))

/-- A call brings an acknowledgment nearer to its end. -/
theorem Within.call {b : Nat} (h : p.Within incident n b) {f : Fortune} (hf : f.fault = none) :
    (p.call n f).Within incident n (b - 1) := by
  have hset {t u : Task κ} (ht : p.tasks[n]? = some t) : (p.tasks.set n u)[n]? = some u := by
    simp [(List.getElem?_eq_some_iff.mp ht).1]
  rcases h with ⟨hn, hb⟩ | ⟨hn, -⟩ | hn | hn
  · cases hp : p.world.outside.present (p.world.now * 1000) incident with
    | true =>
        rw [call_asking_of_present hn hf hp]
        exact .inr (.inl ⟨hset hn, by omega⟩)
    | false =>
        rw [call_asking_of_absent hn hf hp]
        exact .inr (.inr (.inr (hset hn)))
  · cases hp : p.world.outside.get? incident with
    | some v =>
        rw [call_removing_of_some hn hf (by simp [hp])]
        exact .inr (.inr (.inl (hset hn)))
    | none =>
        rw [call_removing_of_none hn hf hp]
        exact .inr (.inr (.inr (hset hn)))
  · rw [call_of_over (by simp [hn, Task.answered])]
    exact .inr (.inr (.inl hn))
  · rw [call_of_over (by simp [hn, Task.answered])]
    exact .inr (.inr (.inr hn))

/-- In a store that works an acknowledgment is over after two calls. -/
theorem Within.run {b : Nat} (h : p.Within incident n b) (moves : List (Move κ))
    (hm : ∀ m ∈ moves, m.Undisturbed incident) :
    (p.run moves).Within incident n (b - moves.countP (·.isCallOf n)) := by
  induction moves generalizing p b with
  | nil => exact h
  | cons m rest ih =>
      have hrest : ∀ m ∈ rest, m.Undisturbed incident :=
        fun m' h' => hm m' (List.mem_cons_of_mem m h')
      have hfirst := hm m List.mem_cons_self
      rw [run_cons]
      cases hcall : m.isCallOf n with
      | true =>
          obtain ⟨f, rfl⟩ := Move.eq_call_of_isCallOf hcall
          rw [List.countP_cons_of_pos hcall, Nat.add_comm, ← Nat.sub_sub]
          exact ih (h.call hfirst.1) hrest
      | false =>
          rw [List.countP_cons_of_neg (by simp [hcall])]
          refine ih ?_ hrest
          rcases h with ⟨hn, hb⟩ | ⟨hn, hb⟩ | hn | hn
          · exact .inl ⟨getElem?_tasks_move hn hfirst hcall, hb⟩
          · exact .inr (.inl ⟨getElem?_tasks_move hn hfirst hcall, hb⟩)
          · exact .inr (.inr (.inl (getElem?_tasks_move hn hfirst hcall)))
          · exact .inr (.inr (.inr (getElem?_tasks_move hn hfirst hcall)))

end Pool

/-! ### The phases of an incident -/

namespace Pool

/-- A pool in a phase of an incident: what its record is, when its checks may be armed for, and what
its operations may have left to do. It has not been paged for. -/
structure Phase (incident : String) (record : Option Memory.Record) (arms : Armed → Prop)
    (Q : Nat → Task κ → Prop) (p : Pool κ) : Prop where
  lawful : p.Lawful
  record : p.world.outside.get? incident = record
  armed : ∀ a ∈ p.world.armed, a.incident = incident → arms a
  unpaged : ∀ n, .paged incident n ∉ p.log
  tasks : EachTask (fun n t => t.operation.incident = incident → Q n t) p.tasks

namespace Phase

variable {p q : Pool κ} {n : Nat} {incident : String} {record : Option Memory.Record}
  {arms : Armed → Prop} {Q : Nat → Task κ → Prop}

/-- A phase survives whatever changes nothing about its incident. -/
theorem of_frames (h : Phase incident record arms Q p) (hf : Frames incident p q)
    (hq : q.Lawful) (ht : EachTask (fun n t => t.operation.incident = incident → Q n t) q.tasks) :
    Phase incident record arms Q q where
  lawful := hq
  record := hf.record.trans h.record
  armed a ha hi := h.armed a (hf.armed a ha hi) hi
  unpaged n hn := h.unpaged n (hf.paged n hn)
  tasks := ht

/-- Issuing an operation on another incident leaves the phase. -/
theorem issue (h : Phase incident record arms Q p) {op : Operation κ}
    (hop : op.incident ≠ incident) : Phase incident record arms Q (p.issue op) :=
  h.of_frames (Frames.issue hop p) (h.lawful.issue op)
    (h.tasks.append fun hi => absurd hi hop)

/-- Issuing one more acknowledgment leaves the phase. -/
theorem issue_acknowledge (h : Phase incident record arms Q p)
    (hask : Q p.tasks.length (.asking incident)) :
    Phase incident record arms Q (p.issue (.acknowledge incident)) where
  lawful := h.lawful.issue _
  record := h.record
  armed := h.armed
  unpaged := h.unpaged
  tasks := h.tasks.append fun _ => hask

/-- A call of an operation on another incident leaves the phase. -/
theorem call (h : Phase incident record arms Q p) {t : Task κ} (hn : p.tasks[n]? = some t)
    (hop : t.operation.incident ≠ incident) (f : Fortune) :
    Phase incident record arms Q (p.call n f) := by
  refine h.of_frames (Frames.call h.lawful hn hop f) (h.lawful.call n f) ?_
  obtain ⟨left, htasks⟩ := tasks_call hn f
  rw [htasks]
  exact h.tasks.set (fun _ _ _ hu => hu) fun hi => absurd hi hop

/-- What is not about the incident leaves it in its phase. -/
theorem move (h : Phase incident record arms Q p) {m : Move κ} (hm : m.Undisturbed incident)
    (hask : Q p.tasks.length (.asking incident))
    (hcall : ∀ n f t, m = .call n f → p.tasks[n]? = some t → t.operation.incident ≠ incident)
    (hwake : ∀ k a, m = .wake k → p.world.armed[k]? = some a → a.due ≤ p.world.now →
      a.incident ≠ incident) :
    Phase incident record arms Q (p.move m) := by
  cases m with
  | issue op =>
      rcases hm with hop | rfl
      · exact h.issue hop
      · exact h.issue_acknowledge hask
  | call n f =>
      cases hn : p.tasks[n]? with
      | none =>
          rw [show p.move (.call n f) = p from call_of_over (by simp [hn]) f]
          exact h
      | some t => exact h.call hn (hcall n f t rfl hn) f
  | abandon n => exact hm.elim
  | wake k =>
      unfold Pool.move Pool.wake
      dsimp only
      split
      · next a ha =>
          split
          · next hdue =>
              refine issue ?_ (hwake k a rfl ha hdue)
              refine ⟨h.lawful, h.record, ?_, h.unpaged, h.tasks⟩
              intro b hb
              exact h.armed b (List.eraseIdx_subset hb)
          · exact h
      · exact h
  | wait seconds => exact ⟨h.lawful, h.record, h.armed, h.unpaged, h.tasks⟩
  | drop key =>
      refine ⟨h.lawful, ?_, h.armed, h.unpaged, h.tasks⟩
      have hrecord := h.record
      simp only [Pool.move]
      rw [Table.get?_erase, if_neg hm]
      exact hrecord

/-- An operation on the incident goes on, and neither its record nor what is armed or paged for it
changes. -/
theorem goOn (h : Phase incident record arms Q p) {f : Fortune} {t : Task κ} {w : World Memory}
    (hcall : p.call n f = { p with world := w, tasks := p.tasks.set n t })
    (hrecord : w.outside.get? incident = p.world.outside.get? incident)
    (harmed : w.armed = p.world.armed) (ht : Q n t) :
    Phase incident record arms Q (p.call n f) := by
  have hlawful := h.lawful.call n f
  rw [hcall] at hlawful ⊢
  refine ⟨hlawful, hrecord.trans h.record, ?_, h.unpaged, ?_⟩
  · intro a ha
    exact h.armed a (harmed ▸ ha)
  · exact h.tasks.set (fun _ _ _ hu => hu) fun _ => ht

/-- A check of the incident begins. -/
theorem wake (h : Phase incident record arms Q p) {k : Nat} {a : Armed}
    (ha : p.world.armed[k]? = some a) (hdue : a.due ≤ p.world.now) (hi : a.incident = incident)
    (hcheck : ∀ settings, Q p.tasks.length (.checking incident settings)) :
    Phase incident record arms Q (p.move (.wake k)) := by
  have hlawful := h.lawful.move (.wake k)
  have hq : p.move (.wake k) = Pool.issue { p with world := { p.world with
      armed := p.world.armed.eraseIdx k } } (.check incident a.settings) := by
    simp only [Pool.move, Pool.wake, ha, hdue, if_true, hi]
  rw [hq] at hlawful ⊢
  refine ⟨hlawful, h.record, ?_, h.unpaged, h.tasks.append fun _ => hcheck a.settings⟩
  intro b hb
  exact h.armed b (List.eraseIdx_subset hb)

end Phase

/-- The alert has still to go to some channels. Nothing is recorded yet, so every acknowledgment
comes too early. -/
structure Sending (r : Relay κ) (incident team : String) (content : Content) (params : Params)
    (left : List κ) (p : Pool κ) : Prop where
  creator : p.tasks[0]? = some (.creating r incident team content params left)
  phase : Phase incident none (fun _ => False)
    (fun n t => n ≠ 0 → t = .asking incident ∨
      t = .answered incident (.error (.notFound incident))) p

/-- The record was written at an instant, and the window is open. Of the acknowledgments only those
that came too early are over. -/
structure Open (incident : String) (settings : Settings.OnCall) (since : Nat) (early : Nat → Prop)
    (p : Pool κ) : Prop where
  clock : p.world.now < since + settings.wait
  phase : Phase incident
    (some ⟨pendingMarker, some (since * 1000 + (settings.wait + recordGrace) * 1000)⟩)
    (fun a => since + settings.wait ≤ a.due)
    (fun n t => t = .asking incident ∨ t = .removing incident ∨
      (∃ a, t.left = some (.done a)) ∧ (t.operation = .acknowledge incident →
        early n ∧ t = .answered incident (.error (.notFound incident)))) p

/-- What an operation on the incident may have left to do once the record was written. If it is over
with success, it has won. -/
inductive Rival (incident : String) (wins : Prop) : Task κ → Prop
  | asking : Rival incident wins (.asking incident)
  | removing : Rival incident wins (.removing incident)
  | checking (settings : Settings.OnCall) : Rival incident wins (.checking incident settings)
  | claiming (settings : Settings.OnCall) : Rival incident wins (.claiming incident settings)
  | finished {t : Task κ} {a : Answer} (ht : t.left = some (.done a))
      (hwins : t = .answered incident (.ok ()) → wins) : Rival incident wins t

/-- An acknowledgment has removed the record. -/
structure Taken (incident : String) (winner : Nat) (p : Pool κ) : Prop where
  acknowledged : .acknowledged incident winner ∈ p.log
  granted : p.tasks[winner]? = some (.answered incident (.ok ()))
  phase : Phase incident none (fun _ => True) (fun n => Rival incident (n = winner)) p

/-- An acknowledgment has seen the record, and nobody has removed it yet. The check may be at it. -/
structure Contested (incident : String) (n : Nat) (record : Memory.Record) (p : Pool κ) : Prop where
  own : p.tasks[n]? = some (.removing incident)
  phase : Phase incident (some record) (fun _ => True) (fun _ => Rival incident False) p

/-- A check has removed the record. -/
def CheckRemoved (incident : String) (p : Pool κ) : Prop :=
  ∃ v settings left, p.tasks[v]? = some ⟨.check incident settings, left⟩ ∧
    .claimed incident v ∈ p.log

/-- A call of an operation that is over changes nothing. -/
theorem call_of_done {p : Pool κ} {n : Nat} {t : Task κ} (hn : p.tasks[n]? = some t) {a : Answer}
    (ht : t.left = some (.done a)) (f : Fortune) : p.call n f = p := by
  refine call_of_over ?_ f
  rintro op c next hc
  obtain rfl := Option.some.inj (hn.symm.trans hc)
  simp at ht

/-- A record that is nowhere is not seen. -/
theorem absent_of_none {p : Pool κ} {incident : String}
    (h : p.world.outside.get? incident = none) :
    p.world.outside.present (p.world.now * 1000) incident = false := by
  simp [Memory.present, h]

/-- A move is a call of an operation on the incident, the start of a check of it, or neither. -/
theorem own_cases (p : Pool κ) (incident : String) (m : Move κ) :
    (∃ n f t, m = .call n f ∧ p.tasks[n]? = some t ∧ t.operation.incident = incident) ∨
      (∃ k a, m = .wake k ∧ p.world.armed[k]? = some a ∧ a.due ≤ p.world.now ∧
        a.incident = incident) ∨
      (∀ n f t, m = .call n f → p.tasks[n]? = some t → t.operation.incident ≠ incident) ∧
        ∀ k a, m = .wake k → p.world.armed[k]? = some a → a.due ≤ p.world.now →
          a.incident ≠ incident := by
  by_cases hcall : ∃ n f t, m = .call n f ∧ p.tasks[n]? = some t ∧ t.operation.incident = incident
  · exact .inl hcall
  · by_cases hwake : ∃ k a, m = .wake k ∧ p.world.armed[k]? = some a ∧ a.due ≤ p.world.now ∧
        a.incident = incident
    · exact .inr (.inl hwake)
    · refine .inr (.inr ⟨?_, ?_⟩)
      · exact fun n f t hm hn hi => hcall ⟨n, f, t, hm, hn, hi⟩
      · exact fun k a hm ha hdue hi => hwake ⟨k, a, hm, ha, hdue, hi⟩

namespace Rival

variable {incident : String} {wins : Prop}

/-- A refused acknowledgment is over and has not won. -/
theorem refused : Rival (κ := κ) incident wins
    (.answered incident (.error (.notFound incident))) :=
  .finished rfl (by simp [Task.answered])

/-- A check that found nothing is over and has not won. -/
theorem checked (settings : Settings.OnCall) :
    Rival (κ := κ) incident wins (.checked incident settings) :=
  .finished rfl nofun

end Rival

namespace Taken

variable {p : Pool κ} {incident : String} {winner : Nat}

/-- An acknowledgment that has seen the record and is the first to remove it has taken it. -/
theorem of_removing {n : Nat} {record : Memory.Record} {arms : Armed → Prop}
    {Q : Nat → Task κ → Prop} (h : Phase incident (some record) arms Q p)
    (hn : p.tasks[n]? = some (.removing incident)) {f : Fortune} (hf : f.fault = none)
    (hQ : ∀ k t, Q k t → Rival incident False t) : (p.call n f).Taken incident n := by
  have hlt : n < p.tasks.length := (List.getElem?_eq_some_iff.mp hn).1
  have hlawful := h.lawful.call n f
  have hq := call_removing_of_some hn hf (by simp [h.record])
  rw [hq] at hlawful ⊢
  refine ⟨by simp, by simp [hlt], hlawful, by simp [Table.get?_erase], fun _ _ _ => trivial, ?_, ?_⟩
  · intro k hk
    have hpage := h.unpaged k
    simp_all
  · refine h.tasks.set ?_ fun _ => .finished rfl fun _ => rfl
    intro k t _ ht hi
    cases hQ k t (ht hi) with
    | asking => exact .asking
    | removing => exact .removing
    | checking settings => exact .checking settings
    | claiming settings => exact .claiming settings
    | finished hdone hwins => exact .finished hdone fun hgranted => (hwins hgranted).elim

/-- Once an acknowledgment has removed the record, nothing brings it back, and nobody is paged. -/
theorem move (h : p.Taken incident winner) {m : Move κ} (hm : m.Undisturbed incident) :
    (p.move m).Taken incident winner := by
  have hgranted : (p.move m).tasks[winner]? = some (.answered incident (.ok ())) := by
    cases hcall : m.isCallOf winner with
    | true =>
        obtain ⟨f, rfl⟩ := Move.eq_call_of_isCallOf hcall
        rw [Pool.move, call_of_done h.granted rfl]
        exact h.granted
    | false => exact getElem?_tasks_move h.granted hm hcall
  refine ⟨(log_prefix_move p m).subset h.acknowledged, hgranted, ?_⟩
  have hrecord := h.phase.record
  have habsent := absent_of_none hrecord
  rcases own_cases p incident m with ⟨n, f, t, rfl, hn, hi⟩ | ⟨k, a, rfl, ha, hdue, hi⟩ | ⟨hc, hw⟩
  · have hgone : (p.world.outside.erase incident).get? incident =
        p.world.outside.get? incident := by
      simp [Table.get?_erase, hrecord]
    rw [Pool.move]
    cases h.phase.tasks n t hn hi with
    | asking =>
        exact h.phase.goOn (call_asking_of_absent hn hm.1 habsent) rfl rfl .refused
    | removing =>
        exact h.phase.goOn (call_removing_of_none hn hm.1 hrecord) hgone rfl .refused
    | checking settings =>
        exact h.phase.goOn (call_checking_of_absent hn hm.1 habsent) rfl rfl (.checked settings)
    | claiming settings =>
        exact h.phase.goOn (call_claiming_of_none hn hm.1 hrecord) hgone rfl (.checked settings)
    | finished hdone =>
        rw [call_of_done hn hdone]
        exact h.phase
  · exact h.phase.wake ha hdue hi .checking
  · exact h.phase.move hm .asking hc hw

/-- Once the record is taken it stays taken. -/
theorem run (h : p.Taken incident winner) (moves : List (Move κ))
    (hm : ∀ m ∈ moves, m.Undisturbed incident) : (p.run moves).Taken incident winner := by
  induction moves generalizing p with
  | nil => exact h
  | cons m rest ih =>
      exact ih (h.move (hm m List.mem_cons_self)) fun m' h' => hm m' (List.mem_cons_of_mem m h')

end Taken

/-- A record that a check removed stays removed by that check. -/
theorem CheckRemoved.run {p : Pool κ} {incident : String} (h : p.CheckRemoved incident)
    (moves : List (Move κ)) (hm : ∀ m ∈ moves, m.Undisturbed incident) :
    (p.run moves).CheckRemoved incident := by
  induction moves generalizing p with
  | nil => exact h
  | cons m rest ih =>
      obtain ⟨v, settings, left, hv, hclaimed⟩ := h
      obtain ⟨left, hv⟩ := exists_left_move hv (hm m List.mem_cons_self)
      exact ih ⟨v, settings, left, hv, (log_prefix_move p m).subset hclaimed⟩
        fun m' h' => hm m' (List.mem_cons_of_mem m h')

namespace Contested

variable {p : Pool κ} {incident : String} {n : Nat} {record : Memory.Record}

/-- The record stays until an acknowledgment that has seen it removes it, or a check does. -/
theorem move (h : p.Contested incident n record) {m : Move κ} (hm : m.Undisturbed incident) :
    (p.move m).Contested incident n record ∨ (∃ u, (p.move m).Taken incident u) ∨
      (p.move m).CheckRemoved incident := by
  have hrecord := h.phase.record
  rcases own_cases p incident m with ⟨k, f, t, rfl, hk, hi⟩ | ⟨k, a, rfl, ha, hdue, hi⟩ | ⟨hc, hw⟩
  · have hown : t ≠ .removing incident →
        (p.move (.call k f)).tasks[n]? = some (.removing incident) := by
      intro ht
      refine getElem?_tasks_move h.own hm (decide_eq_false ?_)
      rintro rfl
      exact ht (Option.some.inj (hk.symm.trans h.own))
    rw [Pool.move] at hown ⊢
    cases h.phase.tasks k t hk hi with
    | removing => exact .inr (.inl ⟨k, Taken.of_removing h.phase hk hm.1 fun _ _ hr => hr⟩)
    | claiming settings =>
        obtain ⟨left, hleft⟩ := exists_left_move hk hm
        have hclaimed := call_claiming_of_some hk hm.1 (by simp [hrecord])
        exact .inr (.inr ⟨k, settings, left, hleft, hclaimed⟩)
    | asking =>
        refine .inl ⟨hown (Task.asking_ne_removing incident), ?_⟩
        cases hp : p.world.outside.present (p.world.now * 1000) incident with
        | true => exact h.phase.goOn (call_asking_of_present hk hm.1 hp) rfl rfl .removing
        | false => exact h.phase.goOn (call_asking_of_absent hk hm.1 hp) rfl rfl .refused
    | checking settings =>
        refine .inl ⟨hown (Task.checking_ne_removing incident settings), ?_⟩
        cases hp : p.world.outside.present (p.world.now * 1000) incident with
        | true =>
            exact h.phase.goOn (call_checking_of_present hk hm.1 hp) rfl rfl (.claiming settings)
        | false =>
            exact h.phase.goOn (call_checking_of_absent hk hm.1 hp) rfl rfl (.checked settings)
    | finished hdone =>
        rw [call_of_done hk hdone]
        exact .inl h
  · exact .inl ⟨getElem?_tasks_move h.own hm rfl, h.phase.wake ha hdue hi .checking⟩
  · refine .inl ⟨?_, h.phase.move hm .asking hc hw⟩
    refine getElem?_tasks_move h.own hm ?_
    cases hcall : m.isCallOf n with
    | false => rfl
    | true =>
        obtain ⟨f, rfl⟩ := Move.eq_call_of_isCallOf hcall
        exact absurd rfl (hc n f _ rfl h.own)

/-- As long as it is not removed, the record stays contested. -/
theorem run (h : p.Contested incident n record) (moves : List (Move κ))
    (hm : ∀ m ∈ moves, m.Undisturbed incident) :
    (p.run moves).Contested incident n record ∨ (∃ u, (p.run moves).Taken incident u) ∨
      (p.run moves).CheckRemoved incident := by
  induction moves generalizing p with
  | nil => exact .inl h
  | cons m rest ih =>
      have hrest : ∀ m ∈ rest, m.Undisturbed incident :=
        fun m' h' => hm m' (List.mem_cons_of_mem m h')
      rcases h.move (hm m List.mem_cons_self) with hnext | ⟨u, htaken⟩ | hremoved
      · exact ih hnext hrest
      · exact .inr (.inl ⟨u, htaken.run rest hrest⟩)
      · exact .inr (.inr (hremoved.run rest hrest))

end Contested

namespace Open

variable {p : Pool κ} {incident : String} {settings : Settings.OnCall} {since : Nat}
  {early : Nat → Prop}

/-- In an open window nobody has won yet. -/
theorem rival {n : Nat} {t : Task κ} (h : t = .asking incident ∨ t = .removing incident ∨
    (∃ a, t.left = some (.done a)) ∧ (t.operation = .acknowledge incident →
      early n ∧ t = .answered incident (.error (.notFound incident)))) :
    Rival incident False t := by
  rcases h with rfl | rfl | ⟨⟨a, hdone⟩, hack⟩
  · exact .asking
  · exact .removing
  · refine .finished hdone ?_
    rintro rfl
    have hrefused := (hack rfl).2
    simp [Task.answered] at hrefused

/-- In an open window the record is seen. -/
theorem present (h : p.Open incident settings since early) :
    p.world.outside.present (p.world.now * 1000) incident = true := by
  have hclock := h.clock
  simp only [Memory.present, h.phase.record, Memory.isBefore_some, decide_eq_true_eq, recordGrace]
  omega

/-- Until its deadline a window stays open, or an acknowledgment removes the record. -/
theorem move (h : p.Open incident settings since early) {m : Move κ}
    (hm : m.Undisturbed incident) (hclock : (p.move m).world.now < since + settings.wait) :
    (p.move m).Open incident settings since early ∨ ∃ u, (p.move m).Taken incident u := by
  rcases own_cases p incident m with ⟨n, f, t, rfl, hn, hi⟩ | ⟨k, a, rfl, ha, hdue, hi⟩ | ⟨hc, hw⟩
  · rcases h.phase.tasks n t hn hi with rfl | rfl | ⟨⟨a, ha⟩, -⟩
    · have hseen := call_asking_of_present hn hm.1 h.present
      exact .inl ⟨hclock, h.phase.goOn hseen rfl rfl (.inr (.inl rfl))⟩
    · exact .inr ⟨n, Taken.of_removing h.phase hn hm.1 fun _ _ => rival⟩
    · refine .inl ⟨hclock, ?_⟩
      rw [Pool.move, call_of_done hn ha]
      exact h.phase
  · have hlate := h.phase.armed a (List.mem_of_getElem? ha) hi
    have hnow := h.clock
    omega
  · exact .inl ⟨hclock, h.phase.move hm (.inl rfl) hc hw⟩

/-- A window stays open until its deadline, unless an acknowledgment takes the record. -/
theorem run (h : p.Open incident settings since early) (moves : List (Move κ))
    (hm : ∀ m ∈ moves, m.Undisturbed incident)
    (hclock : (p.run moves).world.now < since + settings.wait) :
    (p.run moves).Open incident settings since early ∨ ∃ u, (p.run moves).Taken incident u := by
  induction moves generalizing p with
  | nil => exact .inl h
  | cons m rest ih =>
      have hrest : ∀ m ∈ rest, m.Undisturbed incident :=
        fun m' h' => hm m' (List.mem_cons_of_mem m h')
      have hnow := Nat.lt_of_le_of_lt (now_le_run (p.move m) rest) hclock
      rcases h.move (hm m List.mem_cons_self) hnow with hopen | ⟨u, htaken⟩
      · exact ih hopen hrest hclock
      · exact .inr ⟨u, htaken.run rest hrest⟩

end Open

namespace Sending

variable {p : Pool κ} {r : Relay κ} {incident team : String} {content : Content} {params : Params}
  {channels left : List κ}

/-- As long as the alert itself does not go on, nothing changes for it. -/
theorem move (h : p.Sending r incident team content params left) {m : Move κ}
    (hm : m.Undisturbed incident) (hcall : m.isCallOf 0 = false) :
    (p.move m).Sending r incident team content params left := by
  refine ⟨getElem?_tasks_move h.creator hm hcall, ?_⟩
  rcases own_cases p incident m with ⟨n, f, t, rfl, hn, hi⟩ | ⟨k, a, rfl, ha, hdue, hi⟩ | ⟨hc, hw⟩
  · have hne : n ≠ 0 := by simpa [Move.isCallOf] using hcall
    rcases h.phase.tasks n t hn hi hne with rfl | rfl
    · have hmissed := call_asking_of_absent hn hm.1 (absent_of_none h.phase.record)
      exact h.phase.goOn hmissed rfl rfl fun _ => .inr rfl
    · rw [Pool.move, call_of_done hn rfl]
      exact h.phase
  · exact (h.phase.armed a (List.mem_of_getElem? ha) hi).elim
  · exact h.phase.move hm (fun _ => .inl rfl) hc hw

/-- A channel takes the incident. -/
theorem send (he : r.Escalates incident team content params channels) {c : κ}
    (h : p.Sending r incident team content params (c :: left)) {f : Fortune}
    (hf : f.channel = .ok ()) :
    (p.call 0 f).Sending r incident team content params left := by
  have hlt : 0 < p.tasks.length := (List.getElem?_eq_some_iff.mp h.creator).1
  have hlawful := h.phase.lawful.call 0 f
  have hq := call_creating_of_cons he h.creator hf
  rw [hq] at hlawful ⊢
  refine ⟨by simp [hlt], hlawful, h.phase.record, h.phase.armed, ?_, ?_⟩
  · intro k hk
    have hpage := h.phase.unpaged k
    simp_all
  · exact h.phase.tasks.set (fun _ _ _ hu => hu) fun _ hne => absurd rfl hne

/-- In a run every call of the alert takes it to one more channel. -/
theorem run (he : r.Escalates incident team content params channels)
    (h : p.Sending r incident team content params left) (moves : List (Move κ))
    (hm : ∀ m ∈ moves, m.Undisturbed incident)
    (hcount : moves.countP (·.isCallOf 0) ≤ left.length) :
    (p.run moves).Sending r incident team content params
      (left.drop (moves.countP (·.isCallOf 0))) := by
  induction moves generalizing p left with
  | nil => exact h
  | cons m rest ih =>
      have hrest : ∀ m ∈ rest, m.Undisturbed incident :=
        fun m' h' => hm m' (List.mem_cons_of_mem m h')
      have hfirst := hm m List.mem_cons_self
      rw [run_cons]
      cases hcall : m.isCallOf 0 with
      | true =>
          rw [List.countP_cons_of_pos hcall] at hcount ⊢
          obtain ⟨f, rfl⟩ := Move.eq_call_of_isCallOf hcall
          cases left with
          | nil => simp at hcount
          | cons c left =>
              rw [List.drop_succ_cons]
              exact ih (h.send he hfirst.2) hrest (by simpa using hcount)
      | false =>
          have hneg : ¬ m.isCallOf 0 = true := by simp [hcall]
          rw [List.countP_cons_of_neg hneg] at hcount ⊢
          exact ih (h.move hfirst hcall) hrest hcount

/-- Once all channels have taken the incident, its record is written and the window opens. -/
theorem write (he : r.Escalates incident team content params channels)
    (h : p.Sending r incident team content params []) {f : Fortune} (hf : f.fault = none) :
    .stored incident p.world.now ∈ (p.call 0 f).log ∧
      (p.call 0 f).Open incident (r.settingsFor params).onCall p.world.now fun _ => True := by
  have hwait := he.wait_ne_zero
  have hlawful := h.phase.lawful.call 0 f
  have hq := call_creating_of_nil he h.creator hf
  rw [hq] at hlawful ⊢
  refine ⟨by simp, by dsimp only; omega, hlawful, ?_, ?_, ?_, ?_⟩
  · simp [Memory.put_eq, Table.get?_insert]
  · intro a ha hi
    rcases Armed.mem_insertInto.mp ha with rfl | ha
    · exact Nat.le_refl _
    · exact (h.phase.armed a ha hi).elim
  · intro k hk
    have hpage := h.phase.unpaged k
    simp_all
  · refine h.phase.tasks.set ?_ fun _ => .inr (.inr ⟨⟨_, rfl⟩, by simp⟩)
    intro n t hne ht hi
    rcases ht hi hne with ht | ht
    · exact .inl ht
    · exact .inr (.inr ⟨ht ▸ ⟨_, rfl⟩, fun _ => ⟨trivial, ht⟩⟩)

end Sending

/-- An acknowledgment that has no call left is over. -/
theorem Within.answered {p : Pool κ} {incident : String} {n : Nat} (h : p.Within incident n 0) :
    ∃ r, p.tasks[n]? = some (.answered incident r) := by
  rcases h with ⟨-, hb⟩ | ⟨-, hb⟩ | ht | ht
  · omega
  · omega
  · exact ⟨_, ht⟩
  · exact ⟨_, ht⟩

end Pool

end IncidentRelay
