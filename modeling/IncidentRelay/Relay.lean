import IncidentRelay.Dispatch
import IncidentRelay.Escalation.Workflow
import IncidentRelay.Settings.Override

/-!
# The relay

What the service does with an alert: it becomes an incident, the incident goes to the channels, and
if on-call is enabled for the request and the trouble is not over, its escalation starts. The
settings of a request are the service's with the request's parameters applied.

## Main statements

* `Relay.settingsFor_eq`: a request without parameters has the settings of the service.
* `Relay.escalates_announced`: a link makes no difference to whether an incident escalates.
* `Relay.acknowledge_of_no_workflow`: without a workflow nothing can be acknowledged.
-/

namespace IncidentRelay

/-- Why an alert did not go through. -/
inductive IncidentError
  /-- A channel could not be built. -/
  | channels (e : ChannelError)
  | dispatch (e : DispatchError)
  | onCall (e : OnCallError)
  deriving DecidableEq

/-- The text of an incident error. -/
def IncidentError.message : IncidentError → String
  | .channels e => "failed to create channels: " ++ e.message
  | .dispatch e => e.message
  | .onCall e => e.message

/-- The service: its settings, the channels that settings give, and whether there is an escalation
workflow. -/
structure Relay (κ : Type) where
  settings : Settings
  channels : Settings → Except ChannelError (List κ)
  name : κ → String
  workflow : Bool

namespace Relay

variable {κ : Type}

/-- The settings of a request. -/
def settingsFor (r : Relay κ) (params : Params) : Settings :=
  if params.isEmpty then r.settings else r.settings.withOverrides params

/-- Whether an incident has to be acknowledged under these settings. -/
def escalates (s : Settings) (i : Incident) : Bool := !i.resolved && s.onCall.enable

/-- What the channels get to see of an incident: with a link if it has to be acknowledged. -/
def announced (s : Settings) (i : Incident) : Incident :=
  if escalates s i then i.withAckUrl (s.ackUrl i.id) else i

/-- Starts the escalation of an incident that has to be acknowledged. -/
def escalate (r : Relay κ) (s : Settings) (i : Incident) :
    Process κ (Except IncidentError Incident) :=
  if escalates s i then
    if r.workflow then
      (Escalation.start i.id s.onCall).bind fun
        | .ok _ => .done (.ok i)
        | .error e => .done (.error (.onCall e))
    else .done (.error (.onCall .uninitialized))
  else .done (.ok i)

/-- Makes an incident of an alert, under a fresh identifier, and sends it out. -/
def createIncident (r : Relay κ) (id team : String) (content : Content) (params : Params) :
    Process κ (Except IncidentError Incident) :=
  .call (.count .received) fun _ =>
    let s := r.settingsFor params
    match r.channels s with
    | .error e => .done (.error (.channels e))
    | .ok channels =>
      let i := announced s (Incident.create id team content)
      (dispatch r.name i channels).bind fun
        | .error e => .done (.error (.dispatch e))
        | .ok () => escalate r s i

/-- Acknowledges an incident. -/
def acknowledge (r : Relay κ) (incident : String) : Process κ (Except OnCallError Unit) :=
  if r.workflow then Escalation.acknowledge incident else .done (.error .uninitialized)

/-- A request without parameters has the settings of the service. -/
theorem settingsFor_eq (r : Relay κ) (params : Params) :
    r.settingsFor params = r.settings.withOverrides params := by
  cases params <;> rfl

@[simp] theorem id_announced (s : Settings) (i : Incident) : (announced s i).id = i.id := by
  unfold announced
  split <;> rfl

@[simp] theorem escalates_announced (s t : Settings) (i : Incident) :
    escalates s (announced t i) = escalates s i := by
  unfold announced
  split <;> rfl

/-- Without a workflow nothing can be acknowledged. -/
theorem acknowledge_of_no_workflow {r : Relay κ} (h : r.workflow = false) (incident : String) :
    r.acknowledge incident = .done (.error .uninitialized) := by
  simp [acknowledge, h]

end Relay

end IncidentRelay
