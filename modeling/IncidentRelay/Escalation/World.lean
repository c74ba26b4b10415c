import IncidentRelay.Escalation.Workflow

/-!
# Operations in time

A world holds the clock, the armed checks, the counters and the state of the services outside.
Operations run one after the other at the present instant; when the clock moves on, the checks that
fall due run at their instants, in the order of these and, at one instant, in the order in which
they were armed. Time is in seconds.

## Main statements

* `World.now_advance`: the clock moves by exactly the time that passes.
* `World.restart_armed`: a restart forgets every armed check.
-/

namespace IncidentRelay

/-- A check that waits for its instant. -/
structure Armed where
  due : Nat
  incident : String
  settings : Settings.OnCall
  deriving DecidableEq

/-- The clock, what is armed, what was counted, and everything outside. -/
structure World (ω : Type) where
  now : Nat := 0
  /-- The armed checks in the order of their instants. -/
  armed : List Armed := []
  counters : Counters := []
  outside : ω

/-- The services behind the calls of a process, for channels of type `κ`. Each is told the time. -/
structure Services (κ ω : Type) where
  put : (now : Nat) → (key marker : String) → (ttl : Nat) → ω → Except StoreError Unit × ω
  present : (now : Nat) → (key : String) → ω → Except StoreError Bool × ω
  remove : (now : Nat) → (key : String) → ω → Except StoreError Bool × ω
  page : (now : Nat) → (incident : String) → Settings.OnCall → ω → Except PagingError Unit × ω
  send : (now : Nat) → κ → Incident → ω → Except ChannelError Unit × ω

/-- Puts a check after all that fall due no later. -/
def Armed.insertInto (a : Armed) (l : List Armed) : List Armed :=
  l.takeWhile (·.due ≤ a.due) ++ a :: l.dropWhile (·.due ≤ a.due)

namespace World

variable {κ ω α : Type}

/-- Answers one call. -/
def answer (services : Services κ ω) : (c : Call κ) → World ω → c.Reply × World ω
  | .put key marker ttl, w =>
    let (r, o) := services.put w.now key marker ttl w.outside
    (r, { w with outside := o })
  | .present key, w =>
    let (r, o) := services.present w.now key w.outside
    (r, { w with outside := o })
  | .remove key, w =>
    let (r, o) := services.remove w.now key w.outside
    (r, { w with outside := o })
  | .page incident settings, w =>
    let (r, o) := services.page w.now incident settings w.outside
    (r, { w with outside := o })
  | .send channel incident, w =>
    let (r, o) := services.send w.now channel incident w.outside
    (r, { w with outside := o })
  | .arm incident settings after, w =>
    ((), { w with armed := Armed.insertInto ⟨w.now + after, incident, settings⟩ w.armed })
  | .count event, w => ((), { w with counters := w.counters.increment event })

/-- Runs an operation at the present instant. -/
def perform (services : Services κ ω) (p : Process κ α) (w : World ω) : α × World ω :=
  p.run (answer services) w

/-- Runs one armed check at its instant. -/
def runCheck (services : Services κ ω) (w : World ω) (a : Armed) : World ω :=
  (perform services (Escalation.check a.incident a.settings) { w with now := a.due }).2

/-- Lets time pass. A check never arms another, so the checks that fall due are those that are
armed now. -/
def advance (services : Services κ ω) (seconds : Nat) (w : World ω) : World ω :=
  let target := w.now + seconds
  let due := w.armed.takeWhile (·.due ≤ target)
  let rest := w.armed.dropWhile (·.due ≤ target)
  { due.foldl (runCheck services) { w with armed := rest } with now := target }

/-- Stops the process and starts it again over the same services: armed checks are gone. -/
def restart (w : World ω) : World ω := { w with armed := [] }

theorem now_advance (services : Services κ ω) (seconds : Nat) (w : World ω) :
    (advance services seconds w).now = w.now + seconds := rfl

theorem restart_armed (w : World ω) : w.restart.armed = [] := rfl

end World

end IncidentRelay
