import IncidentRelay.Escalation.Process

/-!
# The escalation workflow

Whether a human is paged for an incident. Without an acknowledgment window the page goes out at
once. Otherwise the incident is recorded as pending, for a minute longer than its window, and a
check is armed for the end of the window. An acknowledgment removes the record. The check pages
only if it finds the record and removes it itself, so whoever removes the record has won.

## Main statements

* `start_of_wait_zero`: without a window, starting is one page and a count.
-/

namespace IncidentRelay

/-- Why an on-call operation failed. -/
inductive OnCallError
  /-- There is no escalation workflow. -/
  | uninitialized
  /-- The incident is not pending. -/
  | notFound (incident : String)
  | store (e : StoreError)
  | paging (e : PagingError)
  /-- The window is so long that the life of its record has no number of seconds. -/
  | windowOverflow
  deriving DecidableEq

/-- The text of an on-call error. -/
def OnCallError.message : OnCallError → String
  | .uninitialized => "the on-call workflow hasn't been initialized"
  | .notFound incident =>
    "incident " ++ incident ++ " does not exist or was already acknowledged"
  | .store e => e.message
  | .paging e => e.message
  | .windowOverflow => "overflow when adding durations"

/-- What starting an escalation did. -/
inductive Started
  | paged
  /-- The incident waits this many seconds for an acknowledgment. -/
  | pending (wait : Nat)
  deriving DecidableEq

namespace Escalation

variable {κ : Type}

/-- Pages for an incident and counts the outcome on its path. -/
def page (path : PagePath) (incident : String) (settings : Settings.OnCall) :
    Process κ (Except PagingError Unit) :=
  .call (.page incident settings) fun
    | .ok () => .call (.count (.paged path)) fun _ => .done (.ok ())
    | .error e => .call (.count (.pageFailed path)) fun _ => .done (.error e)

/-- Starts the escalation of an incident. -/
def start (incident : String) (settings : Settings.OnCall) :
    Process κ (Except OnCallError Started) :=
  let wait := settings.wait
  if wait = 0 then
    (page .immediate incident settings).bind fun
      | .ok () => .done (.ok .paged)
      | .error e => .done (.error (.paging e))
  else if maxWord < wait + recordGrace then .done (.error .windowOverflow)
  else
    .call (.put incident pendingMarker (wait + recordGrace)) fun
      | .error e => .done (.error (.store e))
      | .ok () => .call (.arm incident settings wait) fun _ => .done (.ok (.pending wait))

/-- Counts an acknowledgment that found nothing. -/
def notFound (incident : String) : Process κ (Except OnCallError Unit) :=
  .call (.count .notFound) fun _ => .done (.error (.notFound incident))

/-- Acknowledges a pending incident. -/
def acknowledge (incident : String) : Process κ (Except OnCallError Unit) :=
  .call (.present incident) fun
    | .error e => .done (.error (.store e))
    | .ok false => notFound incident
    | .ok true => .call (.remove incident) fun
      | .error e => .done (.error (.store e))
      | .ok false => notFound incident
      | .ok true => .call (.count .acknowledged) fun _ => .done (.ok ())

/-- The check at the end of an acknowledgment window. -/
def check (incident : String) (settings : Settings.OnCall) : Process κ Unit :=
  .call (.present incident) fun
    | .ok true => .call (.remove incident) fun
      | .ok true => (page .deferred incident settings).bind fun _ => .done ()
      | _ => .done ()
    | _ => .done ()

/-- Without a window, starting is one page and a count. -/
theorem start_of_wait_zero {settings : Settings.OnCall} (h : settings.wait = 0)
    (incident : String) :
    start (κ := κ) incident settings =
      (page .immediate incident settings).bind fun
        | .ok () => .done (.ok .paged)
        | .error e => .done (.error (.paging e)) := by
  simp [start, h]

end Escalation

end IncidentRelay
