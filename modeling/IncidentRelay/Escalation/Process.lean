import IncidentRelay.Channel.Error
import IncidentRelay.Counters
import IncidentRelay.Incident
import IncidentRelay.Paging.Error
import IncidentRelay.Settings.Basic
import IncidentRelay.Store.Basic

/-!
# Processes

The operations of the service as sequences of single calls to the outside: the store, the pager,
the channels, the timer and the counters. A process is a tree: a finished result, or one call with
the process that goes on for each answer. Nothing happens between two calls, so every interleaving
of concurrent operations is an interleaving of their calls, and an operation that is abandoned is
one whose tree is left in the middle.

## Main statements

* `Process.pure_bind`, `Process.bind_pure`, `Process.bind_assoc`: the laws of sequencing.
* `Process.run_bind`: running a sequence runs its parts one after the other.
-/

namespace IncidentRelay

/-- One call to the outside, for channels of type `κ`. -/
inductive Call (κ : Type)
  /-- Writes a record with its time to live in seconds. -/
  | put (key marker : String) (ttl : Nat)
  /-- Asks whether a record is there. -/
  | present (key : String)
  /-- Removes a record, and tells whether it was this call that removed it. -/
  | remove (key : String)
  /-- Pages a human for an incident, with the on-call settings of its request. -/
  | page (incident : String) (settings : Settings.OnCall)
  /-- Hands an incident to a channel. -/
  | send (channel : κ) (incident : Incident)
  /-- Arms the check of an incident, due after a number of seconds. -/
  | arm (incident : String) (settings : Settings.OnCall) (after : Nat)
  | count (event : Event)

/-- What a call answers. -/
def Call.Reply {κ : Type} : Call κ → Type
  | .put .. => Except StoreError Unit
  | .present _ => Except StoreError Bool
  | .remove _ => Except StoreError Bool
  | .page .. => Except PagingError Unit
  | .send .. => Except ChannelError Unit
  | .arm .. => Unit
  | .count _ => Unit

/-- An operation with results in `α`. -/
inductive Process (κ α : Type)
  | done (result : α)
  | call (c : Call κ) (next : c.Reply → Process κ α)

namespace Process

variable {κ α β γ : Type}

/-- Goes on with `f` once the process is done. -/
def bind (p : Process κ α) (f : α → Process κ β) : Process κ β :=
  match p with
  | .done a => f a
  | .call c next => .call c fun r => bind (next r) f

instance : Monad (Process κ) where
  pure := .done
  bind := bind

/-- The process that makes one call and returns its answer. -/
def ask (c : Call κ) : Process κ c.Reply := .call c .done

theorem pure_bind (a : α) (f : α → Process κ β) : (Process.done a).bind f = f a := rfl

/-- Ending a process with its own result changes nothing. -/
theorem bind_pure (p : Process κ α) : p.bind .done = p := by
  induction p with
  | done a => rfl
  | call c next ih => simp only [bind, ih]

/-- Three processes one after the other can be put together in either order. -/
theorem bind_assoc (p : Process κ α) (f : α → Process κ β) (g : β → Process κ γ) :
    (p.bind f).bind g = p.bind fun a => (f a).bind g := by
  induction p with
  | done a => rfl
  | call c next ih => simp only [bind, ih]

/-- Runs a process to its end against an outside with states in `σ`. -/
def run {σ : Type} (answer : (c : Call κ) → σ → c.Reply × σ) : Process κ α → σ → α × σ
  | .done a, s => (a, s)
  | .call c next, s =>
    let (r, s) := answer c s
    run answer (next r) s

/-- Two processes one after the other are run one after the other. -/
theorem run_bind {σ : Type} (answer : (c : Call κ) → σ → c.Reply × σ) (p : Process κ α)
    (f : α → Process κ β) (s : σ) :
    (p.bind f).run answer s = (f (p.run answer s).1).run answer (p.run answer s).2 := by
  induction p generalizing s with
  | done a => rfl
  | call c next ih => simp only [bind, run, ih]

end Process

end IncidentRelay
