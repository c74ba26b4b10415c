import IncidentRelay.Proofs.Interleaving.Pool
import Mathlib.Data.List.Perm.Subperm

/-!
# Writes, removals and wins

What the log of a run says about the record of an incident. The ledger follows the record through
the writes and the removals and fails at a removal that had nothing to remove. The history of an
operation is what it did to win: it removes the record, and then it comes back with success or
pages.

## Main statements

* `Mark.claimants_length_le`: each removal has a write of its own.
* `Mark.Regular.winners_length_le`: no operation wins without a removal.
* `Mark.Regular.stored_between_wins`: between two wins there is a write.
-/

namespace IncidentRelay

/-! ### The ledger of a record -/

namespace Mark

/-- Follows the record of an incident through the marks of a run: whether one may be there, and
nothing any more once a removal had nothing to remove. -/
def follow (incident : String) : Option Bool → Mark → Option Bool
  | some there, .stored i _ => some (i = incident || there)
  | some there, .claimed i _ =>
    if i = incident then (if there then some false else none) else some there
  | s, _ => s

/-- The ledger of an incident after a run, from a store in which its record may be there or not. -/
def ledger (incident : String) (there : Bool) (log : List Mark) : Option Bool :=
  log.foldl (follow incident) (some there)

/-- Whether a mark says that a record of the incident was written. -/
def isWrite (incident : String) : Mark → Bool
  | .stored i _ => i = incident
  | _ => false

/-- How often a record of an incident was written. -/
def writes (incident : String) (log : List Mark) : Nat := log.countP (isWrite incident)

/-- The operation that removed a record of the incident by this mark. -/
def claimant? (incident : String) : Mark → Option Nat
  | .claimed i n => if i = incident then some n else none
  | _ => none

/-- The operation that won by this mark: an acknowledgment that came back with success, or a check
that called the pager. -/
def winner? (incident : String) : Mark → Option Nat
  | .acknowledged i n | .paged i n => if i = incident then some n else none
  | _ => none

/-- The operations that removed a record of an incident, in the order of the removals. -/
def claimants (incident : String) (log : List Mark) : List Nat :=
  log.filterMap (claimant? incident)

/-- The operations that won, in the order of their wins. -/
def winners (incident : String) (log : List Mark) : List Nat := log.filterMap (winner? incident)

/-- A ledger that has failed stays so. -/
theorem foldl_follow_none (incident : String) (log : List Mark) :
    log.foldl (follow incident) none = none := by
  induction log with
  | nil => rfl
  | cons m rest ih => cases m <;> exact ih

/-- The ledger follows the marks one after the other. -/
theorem ledger_cons (incident : String) (there : Bool) (m : Mark) (rest : List Mark) :
    ledger incident there (m :: rest) =
      (follow incident (some there) m).bind fun b => ledger incident b rest := by
  unfold ledger
  rw [List.foldl_cons]
  cases follow incident (some there) m with
  | none => exact foldl_follow_none incident rest
  | some b => rfl

/-- The ledger of two logs, one after the other. -/
theorem ledger_append (incident : String) (there : Bool) (front back : List Mark) :
    ledger incident there (front ++ back) =
      (ledger incident there front).bind fun b => ledger incident b back := by
  induction front generalizing there with
  | nil => rfl
  | cons m rest ih =>
      rw [List.cons_append, ledger_cons, ledger_cons]
      cases follow incident (some there) m with
      | none => rfl
      | some b => exact ih b

/-- A record that was not there and is there now was written. -/
theorem stored_mem_of_ledger {incident : String} {log : List Mark}
    (h : ledger incident false log = some true) : ∃ t, .stored incident t ∈ log := by
  induction log with
  | nil => simp [ledger] at h
  | cons m rest ih =>
      rw [ledger_cons] at h
      have skip (hm : follow incident (some false) m = some false) :
          ∃ t, .stored incident t ∈ m :: rest := by
        rw [hm] at h
        obtain ⟨t, ht⟩ := ih h
        exact ⟨t, List.mem_cons_of_mem m ht⟩
      cases m with
      | stored i t =>
          by_cases hi : i = incident
          · exact ⟨t, by simp [hi]⟩
          · exact skip (by simp [follow, hi])
      | claimed i n =>
          by_cases hi : i = incident
          · simp [follow, hi] at h
          · exact skip (by simp [follow, hi])
      | delivered | acknowledged | paged => exact skip rfl

/-- What a mark does to the ledger, in numbers: a removal uses up a write. -/
theorem balance_of_follow {incident : String} {m : Mark} {there after : Bool}
    (h : follow incident (some there) m = some after) :
    (claimants incident [m]).length + after.toNat ≤ writes incident [m] + there.toNat := by
  cases m with
  | stored i t =>
      obtain rfl : (decide (i = incident) || there) = after := Option.some.inj h
      by_cases hi : i = incident
      · simp [claimants, List.filterMap_cons, claimant?, writes, isWrite, hi]
      · simp [claimants, List.filterMap_cons, claimant?, writes, isWrite, hi]
  | claimed i n =>
      by_cases hi : i = incident
      · cases there with
        | false => simp [follow, hi] at h
        | true =>
            obtain rfl : false = after := by simpa [follow, hi] using h
            simp [claimants, claimant?, writes, isWrite, hi]
      · obtain rfl : there = after := by simpa [follow, hi] using h
        simp [claimants, claimant?, writes, isWrite, hi]
  | delivered | acknowledged | paged =>
      obtain rfl : there = after := Option.some.inj h
      simp [claimants, List.filterMap_cons, claimant?, writes, isWrite]

/-- Each removal has a write of its own. -/
theorem claimants_length_le {incident : String} {log : List Mark} {there after : Bool}
    (h : ledger incident there log = some after) :
    (claimants incident log).length + after.toNat ≤ writes incident log + there.toNat := by
  induction log generalizing there with
  | nil =>
      obtain rfl : there = after := Option.some.inj h
      simp [claimants, writes]
  | cons m rest ih =>
      rw [ledger_cons] at h
      obtain ⟨b, hm, hb⟩ := Option.bind_eq_some_iff.mp h
      have hfirst := balance_of_follow hm
      have hrest := ih hb
      have hclaims : (claimants incident (m :: rest)).length =
          (claimants incident [m]).length + (claimants incident rest).length := by
        rw [← List.singleton_append, claimants, List.filterMap_append, List.length_append]
        rfl
      have hwrites : writes incident (m :: rest) =
          writes incident [m] + writes incident rest := by
        rw [← List.singleton_append, writes, List.countP_append]
        rfl
      omega

/-- Before a removal there is a record. -/
theorem ledger_of_claimed {incident : String} {there : Bool} {front back : List Mark} {n : Nat}
    (h : ledger incident there (front ++ .claimed incident n :: back) ≠ none) :
    ledger incident there front = some true ∧ ledger incident false back ≠ none := by
  rw [ledger_append] at h
  cases hf : ledger incident there front with
  | none => simp [hf] at h
  | some b =>
      rw [hf, Option.bind_some, ledger_cons] at h
      cases b with
      | false => simp [follow] at h
      | true => exact ⟨rfl, by simpa [follow] using h⟩

/-- The operation that made a mark, if it competes for records. -/
def maker? : Mark → Option Nat
  | .claimed _ n | .acknowledged _ n | .paged _ n => some n
  | .delivered .. | .stored .. => none

/-- What an operation did to win, in order. -/
def history (n : Nat) (log : List Mark) : List Mark := log.filter (·.maker? = some n)

/-- The history of an operation in two logs, one after the other. -/
theorem history_append (n : Nat) (front back : List Mark) :
    history n (front ++ back) = history n front ++ history n back := List.filter_append ..

/-- What an operation is counted for is read off its history. -/
theorem count_filterMap_history {g : Mark → Option Nat}
    (hg : ∀ m k, g m = some k → m.maker? = some k) (n : Nat) (log : List Mark) :
    (log.filterMap g).count n = ((history n log).filterMap g).count n := by
  induction log with
  | nil => rfl
  | cons m rest ih =>
      unfold history at ih ⊢
      by_cases hm : m.maker? = some n
      · rw [List.filter_cons_of_pos (by simpa using hm)]
        cases hgm : g m with
        | none => simpa [hgm] using ih
        | some k => simp [hgm, List.count_cons, ih]
      · rw [List.filter_cons_of_neg (by simpa using hm)]
        cases hgm : g m with
        | none => simpa [hgm] using ih
        | some k =>
            have hk : k ≠ n := fun hk => hm (hk ▸ hg m k hgm)
            simpa [hgm, hk] using ih

/-- Who removed a record has made the mark of it. -/
theorem maker?_of_claimant? {incident : String} (m : Mark) (k : Nat)
    (h : claimant? incident m = some k) : m.maker? = some k := by
  cases m <;> simp_all [claimant?, maker?]

/-- Who won has made the mark of it. -/
theorem maker?_of_winner? {incident : String} (m : Mark) (k : Nat)
    (h : winner? incident m = some k) : m.maker? = some k := by
  cases m <;> simp_all [winner?, maker?]

end Mark

/-! ### How far an operation has come -/

/-- How far an operation that competes for the record of an incident has come. -/
inductive Standing
  /-- It has not removed the record. -/
  | free
  /-- It has removed the record, and its win is still to come. -/
  | claimed
  /-- It has won. -/
  | spent

/-- The history of an operation that has come so far. -/
def Standing.Shows (incident : String) (n : Nat) : Standing → List Mark → Prop
  | .free, h => h = []
  | .claimed, h => h = [.claimed incident n]
  | .spent, h =>
    h = [.claimed incident n, .acknowledged incident n] ∨
      h = [.claimed incident n, .paged incident n]

/-- Whoever reports success has just removed the record. -/
def Mark.Prompt (log : List Mark) : Prop :=
  ∀ incident n front back, log = front ++ .acknowledged incident n :: back →
    ∃ before, front = before ++ [.claimed incident n]

/-- A step keeps a log prompt if its end reports success only right after a removal. -/
theorem Mark.Prompt.step {log now done : List Mark} (h : Prompt log)
    (hcall : ∀ incident n, .acknowledged incident n ∉ now)
    (hend : ∀ incident n, .acknowledged incident n ∈ done →
      now = [.claimed incident n] ∧ done = [.acknowledged incident n]) :
    Prompt (log ++ (now ++ done)) := by
  intro incident n front back hlog
  have fresh (mid : List Mark) (hmid : now ++ done = mid ++ .acknowledged incident n :: back) :
      ∃ before, log ++ mid = before ++ [.claimed incident n] := by
    have hmem : .acknowledged incident n ∈ now ++ done := by simp [hmid]
    rcases List.mem_append.mp hmem with hmem | hmem
    · exact absurd hmem (hcall incident n)
    · obtain ⟨rfl, rfl⟩ := hend incident n hmem
      rcases List.append_eq_cons_iff.mp hmid.symm with ⟨-, heq⟩ | ⟨rest, rfl, hrest⟩
      · simp at heq
      · rcases List.append_eq_singleton_iff.mp hrest.symm with ⟨rfl, -⟩ | ⟨-, heq⟩
        · exact ⟨log, rfl⟩
        · simp at heq
  rcases List.append_eq_append_iff.mp hlog with ⟨mid, rfl, hmid⟩ | ⟨mid, hmid, hback⟩
  · exact fresh mid hmid
  · cases mid with
    | nil =>
        rw [List.append_nil] at hmid
        subst hmid
        simpa using fresh [] (by simpa using hback.symm)
    | cons m rest =>
        obtain ⟨rfl, -⟩ := List.cons_eq_cons.mp hback
        exact h incident n front rest hmid

/-! ### Wins and writes -/

/-- A history that is cut off anywhere still shows how far the operation had come. -/
theorem Standing.Shows.of_append {incident : String} {n : Nat} {st : Standing}
    {front back : List Mark} (h : st.Shows incident n (front ++ back)) :
    ∃ st' : Standing, st'.Shows incident n front := by
  have cut {x y : Mark} (h : front ++ back = [x, y]) :
      front = [] ∨ front = [x] ∨ front = [x, y] := by
    rcases List.append_eq_cons_iff.mp h with ⟨hf, -⟩ | ⟨rest, rfl, hrest⟩
    · exact .inl hf
    · rcases List.append_eq_singleton_iff.mp hrest.symm with ⟨rfl, -⟩ | ⟨rfl, -⟩
      · exact .inr (.inl rfl)
      · exact .inr (.inr rfl)
  cases st with
  | free => exact ⟨.free, (List.append_eq_nil_iff.mp h).1⟩
  | claimed =>
      rcases List.append_eq_singleton_iff.mp h with ⟨hf, -⟩ | ⟨hf, -⟩
      · exact ⟨.free, hf⟩
      · exact ⟨.claimed, hf⟩
  | spent =>
      rcases h with h | h
      · rcases cut h with hf | hf | hf
        exacts [⟨.free, hf⟩, ⟨.claimed, hf⟩, ⟨.spent, .inl hf⟩]
      · rcases cut h with hf | hf | hf
        exacts [⟨.free, hf⟩, ⟨.claimed, hf⟩, ⟨.spent, .inr hf⟩]

namespace Mark

/-- A log in which every operation removes a record before it wins, and does each only once. -/
def Regular (log : List Mark) : Prop :=
  ∀ n, ∃ (incident : String) (st : Standing), st.Shows incident n (history n log)

/-- A check was overtaken: the record was written again after the check had removed it and before
it paged. -/
def Overtaken (incident : String) (n : Nat) (log : List Mark) : Prop :=
  ∃ front mid back t, log = front ++ .claimed incident n :: (mid ++ .paged incident n :: back) ∧
    .stored incident t ∈ mid

/-- The start of a regular log is regular. -/
theorem Regular.of_append {front back : List Mark} (h : Regular (front ++ back)) :
    Regular front := by
  intro n
  obtain ⟨i, st, hs⟩ := h n
  rw [history_append] at hs
  exact ⟨i, hs.of_append⟩

/-- No operation wins without a removal. -/
theorem Regular.winners_length_le {log : List Mark} (h : Regular log) (incident : String) :
    (winners incident log).length ≤ (claimants incident log).length := by
  refine (List.subperm_iff_count.mpr fun n => ?_).length_le
  rw [winners, claimants, count_filterMap_history maker?_of_winner?,
    count_filterMap_history maker?_of_claimant?]
  obtain ⟨i, st, hs⟩ := h n
  cases st with
  | free =>
      obtain hs : history n log = [] := hs
      simp [hs]
  | claimed =>
      obtain hs : history n log = [.claimed i n] := hs
      simp [hs, List.filterMap_cons, winner?]
  | spent =>
      by_cases hi : i = incident
      · rcases hs with hs | hs <;> simp [hs, List.filterMap_cons, winner?, claimant?, hi]
      · rcases hs with hs | hs <;> simp [hs, List.filterMap_cons, winner?, hi]

/-- The history of an operation that won. -/
theorem Regular.history_of_winner {log : List Mark} (h : Regular log) {incident : String}
    {x : Mark} {n : Nat} (hx : x ∈ log) (hw : x.winner? incident = some n) :
    history n log = [.claimed incident n, x] := by
  have hmem : x ∈ history n log := by
    simpa [history] using ⟨hx, maker?_of_winner? x n hw⟩
  obtain ⟨i, st, hs⟩ := h n
  cases st with
  | free =>
      obtain hs : history n log = [] := hs
      simp [hs] at hmem
  | claimed =>
      obtain hs : history n log = [.claimed i n] := hs
      obtain rfl : x = .claimed i n := by simpa [hs] using hmem
      simp [winner?] at hw
  | spent =>
      rcases hs with hs | hs
      · rcases (by simpa [hs] using hmem : x = .claimed i n ∨ x = .acknowledged i n) with rfl | rfl
        · simp [winner?] at hw
        · obtain rfl : i = incident := by simpa [winner?] using hw
          exact hs
      · rcases (by simpa [hs] using hmem : x = .claimed i n ∨ x = .paged i n) with rfl | rfl
        · simp [winner?] at hw
        · obtain rfl : i = incident := by simpa [winner?] using hw
          exact hs

/-- Before an operation wins it removes the record, and after that it does nothing more. -/
theorem Regular.around_winner {front back : List Mark} {incident : String} {x : Mark} {n : Nat}
    (h : Regular (front ++ x :: back)) (hw : x.winner? incident = some n) :
    history n front = [.claimed incident n] ∧ history n back = [] := by
  have hs := h.history_of_winner (by simp) hw
  have hx : history n (x :: back) = x :: history n back := by
    simp [history, maker?_of_winner? x n hw]
  have hne : x ≠ .claimed incident n := by
    rintro rfl
    simp [winner?] at hw
  rw [history_append, hx] at hs
  rcases List.append_eq_cons_iff.mp hs with ⟨-, hs⟩ | ⟨rest, hfront, hs⟩
  · exact absurd (List.cons_eq_cons.mp hs).1 hne
  · rcases List.append_eq_cons_iff.mp hs.symm with ⟨rfl, hs⟩ | ⟨rest', -, hs⟩
    · exact ⟨hfront, (List.cons_eq_cons.mp hs).2.symm⟩
    · simp at hs

/-- The only mark of a history is one of the log. -/
theorem mem_of_history {n : Nat} {log : List Mark} {x : Mark} (h : history n log = [x]) :
    x ∈ log := by
  have : x ∈ history n log := by simp [h]
  exact (List.mem_filter.mp this).1

/-- Between two removals of an incident's record it is written. -/
theorem stored_between {incident : String} {front mid back : List Mark} {n m : Nat}
    (h : ledger incident false
      (front ++ .claimed incident n :: (mid ++ .claimed incident m :: back)) ≠ none) :
    ∃ t, .stored incident t ∈ mid := by
  obtain ⟨-, h⟩ := ledger_of_claimed h
  exact stored_mem_of_ledger (ledger_of_claimed h).1

/-- Only a check can be overtaken: the removal of an acknowledgment is its success. -/
theorem Regular.overtaken {incident : String} {front mid back : List Mark} {x : Mark} {n t : Nat}
    (h : Regular (front ++ .claimed incident n :: (mid ++ x :: back)))
    (hp : Prompt (front ++ .claimed incident n :: (mid ++ x :: back)))
    (hx : x.winner? incident = some n) (ht : .stored incident t ∈ mid) :
    Overtaken incident n (front ++ .claimed incident n :: (mid ++ x :: back)) := by
  have hassoc : front ++ .claimed incident n :: (mid ++ x :: back) =
      (front ++ .claimed incident n :: mid) ++ x :: back := by simp
  cases x with
  | acknowledged i k =>
      obtain ⟨rfl, rfl⟩ : i = incident ∧ k = n := by simpa [winner?] using hx
      obtain ⟨before, hbefore⟩ := hp i k _ back hassoc
      rcases List.eq_nil_or_concat mid with rfl | ⟨rest, last, rfl⟩
      · simp at ht
      · rw [List.concat_eq_append] at hbefore hassoc
        have hends : (front ++ .claimed i k :: rest) ++ [last] = before ++ [.claimed i k] := by
          simpa using hbefore
        obtain rfl : last = .claimed i k := by simpa using (List.append_inj' hends rfl).2
        rw [List.concat_eq_append, hassoc] at h
        have hone := congrArg List.length (h.around_winner hx).1
        simp [history, maker?] at hone
        omega
  | paged i k =>
      obtain ⟨rfl, rfl⟩ : i = incident ∧ k = n := by simpa [winner?] using hx
      exact ⟨front, mid, back, t, rfl, ht⟩
  | delivered | stored | claimed => simp [winner?] at hx

/-- Between two wins the record is written, unless one of the winners is a check that was overtaken
on its way from the removal to its page. -/
theorem Regular.stored_between_wins {incident : String} {front mid back : List Mark}
    {x y : Mark} {n m : Nat} (h : Regular (front ++ x :: (mid ++ y :: back)))
    (hp : Prompt (front ++ x :: (mid ++ y :: back)))
    (hl : ledger incident false (front ++ x :: (mid ++ y :: back)) ≠ none)
    (hx : x.winner? incident = some n) (hy : y.winner? incident = some m) :
    (∃ t, .stored incident t ∈ mid) ∨
      Overtaken incident n (front ++ x :: (mid ++ y :: back)) ∨
        Overtaken incident m (front ++ x :: (mid ++ y :: back)) := by
  obtain ⟨hn, hnone⟩ := h.around_winner hx
  have hm : history m (front ++ x :: mid) = [.claimed incident m] := by
    have hassoc : Regular ((front ++ x :: mid) ++ y :: back) := by simpa using h
    exact (hassoc.around_winner hy).1
  have hne : m ≠ n := by
    rintro rfl
    have : y ∈ history m (mid ++ y :: back) := by simp [history, maker?_of_winner? y m hy]
    simp [hnone] at this
  obtain ⟨f₁, f₂, rfl⟩ := List.append_of_mem (mem_of_history hn)
  have hmem := mem_of_history hm
  rw [List.mem_append, List.mem_append, List.mem_cons, List.mem_cons] at hmem
  rcases hmem with (hmem | hmem | hmem) | hmem | hmem
  · -- The later winner removed its record first, and won last.
    obtain ⟨g₁, g₂, rfl⟩ := List.append_of_mem hmem
    have hlog : ((g₁ ++ .claimed incident m :: g₂) ++ .claimed incident n :: f₂) ++
        x :: (mid ++ y :: back) = g₁ ++ .claimed incident m ::
          ((g₂ ++ .claimed incident n :: (f₂ ++ x :: mid)) ++ y :: back) := by simp
    rw [hlog] at h hp ⊢
    have hledger : ledger incident false (g₁ ++ .claimed incident m ::
        (g₂ ++ .claimed incident n :: (f₂ ++ x :: (mid ++ y :: back)))) ≠ none := by
      simpa using hl
    obtain ⟨t, ht⟩ := stored_between hledger
    exact .inr (.inr (h.overtaken hp hy (List.mem_append_left _ ht)))
  · exact absurd (by simpa using hmem) hne
  · -- The later winner removed its record before the earlier one won.
    obtain ⟨g₁, g₂, rfl⟩ := List.append_of_mem hmem
    have hlog : (f₁ ++ .claimed incident n :: (g₁ ++ .claimed incident m :: g₂)) ++
        x :: (mid ++ y :: back) = f₁ ++ .claimed incident n ::
          ((g₁ ++ .claimed incident m :: g₂) ++ x :: (mid ++ y :: back)) := by simp
    rw [hlog] at h hp ⊢
    have hledger : ledger incident false (f₁ ++ .claimed incident n ::
        (g₁ ++ .claimed incident m :: (g₂ ++ x :: (mid ++ y :: back)))) ≠ none := by
      simpa using hl
    obtain ⟨t, ht⟩ := stored_between hledger
    exact .inr (.inl (h.overtaken hp hx (List.mem_append_left _ ht)))
  · subst hmem
    simp [winner?] at hx
  · obtain ⟨g₁, g₂, rfl⟩ := List.append_of_mem hmem
    have hlog : (f₁ ++ .claimed incident n :: f₂) ++
        x :: ((g₁ ++ .claimed incident m :: g₂) ++ y :: back) = f₁ ++ .claimed incident n ::
          (f₂ ++ x :: ((g₁ ++ .claimed incident m :: g₂) ++ y :: back)) := by simp
    rw [hlog] at h hp hl ⊢
    have hledger : ledger incident false (f₁ ++ .claimed incident n ::
        ((f₂ ++ x :: g₁) ++ .claimed incident m :: (g₂ ++ y :: back))) ≠ none := by
      simpa using hl
    obtain ⟨t, ht⟩ := stored_between hledger
    rcases List.mem_append.mp ht with ht | ht
    · exact .inr (.inl (h.overtaken hp hx ht))
    · rcases List.mem_cons.mp ht with rfl | ht
      · simp [winner?] at hx
      · exact .inl ⟨t, by simp [ht]⟩

end Mark

end IncidentRelay
