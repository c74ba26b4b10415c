import IncidentRelay.Drill.Redis
import IncidentRelay.Proofs.Tables
import IncidentRelay.Store.Memory
import Mathlib.Logic.Function.Basic

/-!
# A store in Redis refines a store in memory

Requests to a store in Redis and to a store in memory, one after the other. What Redis does with the
few commands that it gets is taken from the server's documentation: it keeps one marker under each
key. As long as no record runs out, the store in memory does the same, so both answer alike. The one
exception is a time to live that has no number of 64 bits in milliseconds: the store in memory takes
it, and the store in Redis refuses it before anything is sent.

Instants and times to live are in nanoseconds.

## Main statements

* `Redis.Store.report_of_fits`: a request is one command, whose reply is what a store in memory with
  the same records answers.
* `Redis.redis_refines_memory`: so a run over Redis answers step by step as a run in memory.
-/

namespace IncidentRelay

variable {σ : Type}

/-! ### Requests and their answers -/

/-- What a store is asked for. -/
inductive StoreRequest
  /-- Writes a record with its time to live in nanoseconds. -/
  | put (key marker : String) (ttl : Nat)
  | present (key : String)
  | remove (key : String)
  | ping
  deriving DecidableEq

/-- What a store answers. -/
inductive StoreAnswer
  | done (r : Except StoreError Unit)
  | found (r : Except StoreError Bool)

namespace StoreRequest

/-- The command for a request, with its time to live in whole milliseconds. -/
def command : StoreRequest → Redis.Command
  | put key marker ttl => .put key marker (ttl / Redis.nanosPerMilli)
  | present key => .present key
  | remove key => .remove key
  | ping => .ping

/-- Whether the time to live of a record, if one is written, has a number of 64 bits in
milliseconds. -/
def fits : StoreRequest → Bool
  | put _ _ ttl => ttl / Redis.nanosPerMilli ≤ maxWord
  | _ => true

/-- A record is to live for a millisecond at least. -/
def Lasts : StoreRequest → Prop
  | put _ _ ttl => Redis.nanosPerMilli ≤ ttl
  | _ => True

instance (r : StoreRequest) : Decidable r.Lasts :=
  match r with
  | put _ _ ttl => inferInstanceAs (Decidable (Redis.nanosPerMilli ≤ ttl))
  | present _ | remove _ | ping => .isTrue trivial

end StoreRequest

/-! ### The store in memory -/

namespace Memory

/-- The marker under each key, whether or not its record has run out. -/
def markers (m : Memory) (key : String) : Option String := (m.get? key).map (·.marker)

/-- The answer of a store in memory at an instant, and the records after it. The process itself can
always be reached. -/
def answer (m : Memory) (now : Nat) : StoreRequest → StoreAnswer × Memory
  | .put key marker ttl => (.done (.ok ()), m.put now key marker ttl)
  | .present key => (.found (.ok (m.present now key)), m)
  | .remove key =>
    let (removed, m) := m.remove key
    (.found (.ok removed), m)
  | .ping => (.done (.ok ()), m)

/-- Answers requests at their instants one after the other. -/
def answers (m : Memory) : List (Nat × StoreRequest) → List StoreAnswer × Memory
  | [] => ([], m)
  | (now, r) :: rest =>
    let (a, m) := m.answer now r
    let (as, m) := m.answers rest
    (a :: as, m)

/-- Whether no record has run out at an instant. -/
def IsFresh (m : Memory) (now : Nat) : Prop := ∀ e ∈ m, isBefore now e.2.deadline = true

/-- Whether no record has run out at the instant of any request. -/
def StaysFresh (m : Memory) : List (Nat × StoreRequest) → Prop
  | [] => True
  | (now, r) :: rest => m.IsFresh now ∧ (m.answer now r).2.StaysFresh rest

instance (m : Memory) (now : Nat) : Decidable (m.IsFresh now) :=
  inferInstanceAs (Decidable (∀ e ∈ m, isBefore now e.2.deadline = true))

instance decidableStaysFresh (m : Memory) :
    (steps : List (Nat × StoreRequest)) → Decidable (m.StaysFresh steps)
  | [] => .isTrue trivial
  | (now, r) :: rest =>
    have := decidableStaysFresh (m.answer now r).2 rest
    inferInstanceAs (Decidable (m.IsFresh now ∧ (m.answer now r).2.StaysFresh rest))

/-- A write sets the marker of its key. -/
theorem markers_put (m : Memory) (now : Nat) (key marker : String) (ttl : Nat) :
    (m.put now key marker ttl).markers = Function.update m.markers key (some marker) := by
  funext other
  rw [put_eq, markers, Table.get?_insert]
  by_cases h : key = other
  · subst h
    simp
  · simp [h, markers, Function.update_of_ne (Ne.symm h)]

/-- A removal takes the marker of its key. -/
theorem markers_remove (m : Memory) (key : String) :
    (m.remove key).2.markers = Function.update m.markers key none := by
  funext other
  rw [remove, markers, Table.get?_erase]
  by_cases h : key = other
  · subst h
    simp
  · simp [h, markers, Function.update_of_ne (Ne.symm h)]

/-- A removal succeeds if the key has a marker. -/
theorem removed_eq (m : Memory) (key : String) :
    (m.remove key).1 = (m.markers key).isSome := by
  simp [remove, markers]

/-- A record that has not run out is seen. -/
theorem IsFresh.present_eq {m : Memory} {now : Nat} (h : m.IsFresh now) (key : String) :
    m.present now key = (m.markers key).isSome := by
  simp only [present, markers]
  cases hget : m.get? key with
  | none => rfl
  | some r => exact h _ (Table.mem_of_get? hget)

end Memory

/-! ### The store in Redis -/

namespace Redis

/-- What a server replies that keeps a map of keys to markers. -/
def replyOf (markers : String → Option String) : Command → Reply
  | .put .. | .authenticate _ | .select _ => granted
  | .present key | .remove key => .integer (if (markers key).isSome = true then 1 else 0)
  | .ping => .status "PONG"

/-- The map of keys to markers after a command. -/
def mapAfter (markers : String → Option String) : Command → String → Option String
  | .put key marker _ => Function.update markers key (some marker)
  | .remove key => Function.update markers key none
  | .present _ | .ping | .authenticate _ | .select _ => markers

/-- A server behind a link that executes commands as operations on a map of keys to markers. -/
structure KeyMap (link : Link σ) where
  /-- The states in which the server does so. -/
  sound : σ → Prop
  markers : σ → String → Option String
  executes : ∀ c s, sound s →
    (link.exchange c s).1 = some (replyOf (markers s) c) ∧
      sound (link.exchange c s).2 ∧ markers (link.exchange c s).2 = mapAfter (markers s) c

/-- The link with the commands that are sent over it, last first. -/
def Link.logged (link : Link σ) : Link (List Command × σ) where
  connect := fun (log, s) =>
    let (reached, s) := link.connect s
    (reached, (log, s))
  exchange c := fun (log, s) =>
    let (r, s) := link.exchange c s
    (r, (c :: log, s))

namespace Store

/-- The answer of a store in Redis, and what becomes of the connection. -/
def answer (store : Store σ) (s : Connected σ) : StoreRequest → StoreAnswer × Connected σ
  | .put key marker ttl =>
    let (r, s) := store.write key marker ttl s
    (.done r, s)
  | .present key =>
    let (r, s) := store.present key s
    (.found r, s)
  | .remove key =>
    let (r, s) := store.remove key s
    (.found r, s)
  | .ping =>
    let (r, s) := store.ping s
    (.done r, s)

/-- A request with its answer and the commands that were sent for it. -/
structure Report where
  request : StoreRequest
  answer : StoreAnswer
  sent : List Command

/-- Answers a request and reports on it. -/
def report (link : Link σ) (settings : Settings.Redis) (s : Connected σ) (r : StoreRequest) :
    Report × Connected σ :=
  let (a, after) := answer ⟨link.logged, settings⟩ ⟨s.up, ([], s.outside)⟩ r
  (⟨r, a, after.outside.1.reverse⟩, ⟨after.up, after.outside.2⟩)

/-- Answers requests one after the other and reports on each. -/
def reports (link : Link σ) (settings : Settings.Redis) (s : Connected σ) :
    List StoreRequest → List Report × Connected σ
  | [] => ([], s)
  | r :: rest =>
    let (first, s) := report link settings s r
    let (others, s) := reports link settings s rest
    (first :: others, s)

variable {link : Link σ} (server : KeyMap link) (settings : Settings.Redis)

/-- Over a connection that is up a command is sent once, and its reply comes back. -/
theorem ask_logged {c : Command} {s s' : σ} {r : Reply}
    (h : link.exchange c s = (some r, s')) (hr : ∀ e, r ≠ .refused e) :
    ask ⟨link.logged, settings⟩ c ⟨true, ([], s)⟩ = (.ok r, ⟨true, ([c], s')⟩) := by
  have hexchange : link.logged.exchange c ([], s) = (some r, ([c], s')) := by
    simp only [Link.logged, h]
  cases r with
  | refused e => exact absurd rfl (hr e)
  | status | integer | absent => simp only [ask, if_true, command, hexchange]

/-- A request whose time to live fits is one command, and is answered as a store in memory answers
it that has the same records, none of which has run out. -/
theorem report_of_fits {m : Memory} {now : Nat} {r : StoreRequest} {s : σ} (hsound : server.sound s)
    (hsame : server.markers s = m.markers) (hfresh : m.IsFresh now) (hfits : r.fits = true)
    (hlasts : r.Lasts) :
    ∃ s', report link settings ⟨true, s⟩ r = (⟨r, (m.answer now r).1, [r.command]⟩, ⟨true, s'⟩) ∧
      server.sound s' ∧ server.markers s' = (m.answer now r).2.markers := by
  obtain ⟨hreply, hsound, hafter⟩ := server.executes r.command s hsound
  have hask : ask ⟨link.logged, settings⟩ r.command ⟨true, ([], s)⟩ =
      (.ok (replyOf m.markers r.command),
        ⟨true, ([r.command], (link.exchange r.command s).2)⟩) := by
    refine ask_logged settings (Prod.ext (hsame ▸ hreply) rfl) ?_
    cases r <;> exact fun _ => nofun
  generalize (link.exchange r.command s).2 = s' at hask hsound hafter
  refine ⟨s', ?_, hsound, ?_⟩
  · cases r with
    | put key marker ttl =>
        have hword : ttl / nanosPerMilli ≤ maxWord := by simpa [StoreRequest.fits] using hfits
        have hone : max (ttl / nanosPerMilli) 1 = ttl / nanosPerMilli :=
          Nat.max_eq_left (Nat.div_pos hlasts (by decide))
        simp only [StoreRequest.command] at hask
        simp only [report, answer, write_of_fits _ hword, hone, hask]
        rfl
    | present key =>
        simp only [StoreRequest.command] at hask
        simp only [report, answer, present, decide, hask, replyOf, presentOf_flag]
        rw [← hfresh.present_eq]
        rfl
    | remove key =>
        simp only [StoreRequest.command] at hask
        simp only [report, answer, remove, decide, hask, replyOf, removedOf_flag]
        rw [← Memory.removed_eq]
        rfl
    | ping =>
        simp only [StoreRequest.command] at hask
        simp only [report, answer, ping, hask]
        rfl
  · rw [hafter, hsame]
    cases r with
    | put key marker ttl => exact (m.markers_put now key marker ttl).symm
    | remove key => exact (m.markers_remove key).symm
    | present | ping => rfl

/-- A write whose time to live does not fit is refused, and nothing is sent. -/
theorem report_of_long {key marker : String} {ttl : Nat}
    (hlong : (StoreRequest.put key marker ttl).fits = false) (s : Connected σ) :
    report link settings s (.put key marker ttl) =
      (⟨.put key marker ttl, .done (.error (tooLong key (durationText ttl))), []⟩, s) := by
  have hword : maxWord < ttl / nanosPerMilli := by simpa [StoreRequest.fits] using hlong
  simp only [report, answer, write_of_long _ hword]
  rfl

end Store

/-! ### Runs -/

/-- How requests to a store in Redis go, beside the answers of a store in memory. What fits is
answered alike by one command. A write whose time to live does not fit is refused, naming its key,
before anything is sent, and the store in memory is left out. -/
inductive Refined : List StoreRequest → List Store.Report → List StoreAnswer → Prop
  | nil : Refined [] [] []
  | answered {r : StoreRequest} {rest : List StoreRequest} {reports : List Store.Report}
      {answers : List StoreAnswer} (a : StoreAnswer) (hfits : r.fits = true)
      (h : Refined rest reports answers) :
      Refined (r :: rest) (⟨r, a, [r.command]⟩ :: reports) (a :: answers)
  | refused {key marker : String} {ttl : Nat} {rest : List StoreRequest}
      {reports : List Store.Report} {answers : List StoreAnswer}
      (hlong : maxWord < ttl / nanosPerMilli) (h : Refined rest reports answers) :
      Refined (.put key marker ttl :: rest)
        (⟨.put key marker ttl,
          .done (.error (.operation key ("ttl of " ++ durationText ttl ++ " is too large"))), []⟩
          :: reports) answers

/-- A store in Redis answers step by step as a store in memory with the same records, as long as
none of these runs out, and both have the same records afterwards. -/
theorem redis_refines_memory {link : Link σ} (server : KeyMap link) (settings : Settings.Redis)
    (steps : List (Nat × StoreRequest)) (m : Memory) (s : σ) (hsound : server.sound s)
    (hsame : server.markers s = m.markers) (hlasts : ∀ e ∈ steps, e.2.Lasts)
    (hfresh : m.StaysFresh (steps.filter (·.2.fits))) :
    let redis := Store.reports link settings ⟨true, s⟩ (steps.map (·.2))
    let memory := m.answers (steps.filter (·.2.fits))
    Refined (steps.map (·.2)) redis.1 memory.1 ∧ redis.2.up = true ∧
      server.markers redis.2.outside = memory.2.markers := by
  induction steps generalizing m s with
  | nil => exact ⟨.nil, rfl, hsame⟩
  | cons step rest ih =>
      obtain ⟨now, r⟩ := step
      obtain ⟨hlast, hrest⟩ := List.forall_mem_cons.mp hlasts
      cases hfits : r.fits with
      | true =>
          have hfilter : ((now, r) :: rest).filter (·.2.fits) =
              (now, r) :: rest.filter (·.2.fits) := List.filter_cons_of_pos hfits
          rw [hfilter] at hfresh ⊢
          obtain ⟨s', hreport, hsound', hsame'⟩ :=
            Store.report_of_fits server settings hsound hsame hfresh.1 hfits hlast
          obtain ⟨hrun, hup, hmarkers⟩ := ih _ s' hsound' hsame' hrest hfresh.2
          simp only [List.map_cons, Store.reports, hreport]
          exact ⟨.answered _ hfits hrun, hup, hmarkers⟩
      | false =>
          have hfilter : ((now, r) :: rest).filter (·.2.fits) = rest.filter (·.2.fits) :=
            List.filter_cons_of_neg (by simp [hfits])
          rw [hfilter] at hfresh ⊢
          obtain ⟨hrun, hup, hmarkers⟩ := ih m s hsound hsame hrest hfresh
          cases r with
          | put key marker ttl =>
              simp only [List.map_cons, Store.reports, Store.report_of_long settings hfits]
              exact ⟨.refused (by simpa [StoreRequest.fits] using hfits) hrun, hup, hmarkers⟩
          | present | remove | ping => exact absurd hfits (by simp [StoreRequest.fits])

end Redis

/-- A server for drills that was told nothing keeps a map of keys to markers. -/
def DrillRedis.keyMap : Redis.KeyMap DrillRedis.link where
  sound d := d.replies = []
  markers d key := Table.get? d.records key
  executes c d h := by
    have husual : DrillRedis.link.exchange c d =
        (some (usual { d with sent := c :: d.sent } c).1,
          (usual { d with sent := c :: d.sent } c).2) := by
      simp only [link, exchange, h, Table.get?]
    rw [husual]
    cases c with
    | authenticate | select | ping | present => exact ⟨rfl, h, rfl⟩
    | put key marker ttl =>
        refine ⟨rfl, h, ?_⟩
        funext other
        simp only [usual, Redis.mapAfter, Table.get?_insert, Function.update_apply, eq_comm]
    | remove key =>
        refine ⟨rfl, h, ?_⟩
        funext other
        simp only [usual, Redis.mapAfter, Table.get?_erase, Function.update_apply, eq_comm]

/-- A record is written, found and removed once, a finer time to live is cut off, and the longest
one in whole seconds is refused. -/
theorem Redis.redis_refines_memory_script :
    let steps : List (Nat × StoreRequest) :=
      [(0, .ping), (0, .put "x" "pending" 120000999999),
        (1, .put "y" "pending" 18446744073709551615000000000), (2, .present "x"),
        (3, .remove "x"), (4, .remove "x"), (5, .present "y")]
    let redis := Store.reports DrillRedis.link {} ⟨true, {}⟩ (steps.map (·.2))
    Refined (steps.map (·.2)) redis.1 (Memory.answers [] (steps.filter (·.2.fits))).1 ∧
      redis.1.map (·.sent) = [[.ping], [.put "x" "pending" 120000], [], [.present "x"],
        [.remove "x"], [.remove "x"], [.present "y"]] := by
  refine ⟨(redis_refines_memory DrillRedis.keyMap {} _ [] {} rfl rfl ?_ ?_).1, ?_⟩
  · decide
  · decide
  · decide

end IncidentRelay
