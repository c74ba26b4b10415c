import IncidentRelay.Log.Entry

/-!
# Background tasks

Tasks that are started under a name and waited for when the service stops. A task that breaks down
is reported and does not keep the others from being waited for.
-/

namespace IncidentRelay

/-- What a task does. -/
inductive Work
  /-- Waits until the service stops. -/
  | untilStopped
  | forSeconds (seconds : Nat)
  | breaksDown
  | nothing
  deriving DecidableEq

/-- A task under its name. -/
structure BackgroundTask where
  name : String
  work : Work
  deriving DecidableEq

/-- Whether a task comes to its end once the service stops. -/
def BackgroundTask.ends (t : BackgroundTask) : Bool := t.work ≠ .breaksDown

namespace Tasks

/-- The part of the program that looks after tasks. -/
def target : String := "incidentd::task_manager"

/-- An entry about one task. -/
def about (level : Log.Level) (message : String) (t : BackgroundTask) : Log.Entry :=
  { level, target, message, fields := [("task_name", .text t.name)] }

/-- What is logged when a task is started. -/
def spawned (t : BackgroundTask) : Log.Entry := about .debug "Spawning task" t

/-- What is logged once a task is over. -/
def ended (t : BackgroundTask) : Log.Entry :=
  if t.ends then about .debug "Task shut down gracefully." t
  else about .error "Task panicked during shutdown." t

/-- What is logged while all tasks are waited for. -/
def shutdown (tasks : List BackgroundTask) : List Log.Entry :=
  let info (message : String) : Log.Entry := { level := .info, target, message }
  info ("Waiting for " ++ toString tasks.length ++ " tasks to complete...") :: tasks.map ended
    ++ if tasks.all (·.ends) then [info "All tasks shut down gracefully."] else []

/-- Everything that is logged from the start of the tasks to their end. -/
def log (tasks : List BackgroundTask) : List Log.Entry := tasks.map spawned ++ shutdown tasks

/-- The names of the tasks that came to their end, in order. -/
def finished (tasks : List BackgroundTask) : List String :=
  ((tasks.filter (·.ends)).map (·.name)).mergeSort

end Tasks

end IncidentRelay
