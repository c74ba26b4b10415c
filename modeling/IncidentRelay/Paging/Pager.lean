import IncidentRelay.Json.Reader
import IncidentRelay.Paging.Error
import IncidentRelay.Settings.Basic
import IncidentRelay.Text.Lines
import IncidentRelay.Wire

/-!
# Pagers

The services that page a human. A request's own target wins over the configured one unless it is
empty; everything else about the service comes from the configuration. PagerDuty gets one request.
The client of the cloud's incident manager tries again by a policy that its surroundings choose. By
the standard policy there are up to three attempts, as long as the failure is one that may pass: no
reply, an overloaded server, or a request for patience. The bodies of the incident manager are read
as well: a success has to describe the incident that was started, and a refusal can name its error.
-/

namespace IncidentRelay

open Json (Value)

/-- The title of an incident in the incident manager. -/
def incidentTitle (incident : String) : String := "Incident id " ++ incident

namespace Pager

/-! ### Replies of the incident manager -/

/-- What the incident manager says in a body, where an empty one stands for an empty object. -/
def cloudBody? (body : String) : Option Value :=
  if body = "" then some (.object []) else Json.read body.toList

/-- Whether a body describes an incident that was started: an object, in which the name of the
record is a text, if it is there. -/
def describesIncident (body : String) : Bool :=
  match (cloudBody? body).bind (·.asObject?) with
  | some fields =>
    match Table.get? fields "incidentRecordArn" with
    | none | some .null | some (.string _) => true
    | some _ => false
  | none => false

/-- The text under a name, if a value is an object that has one there. -/
def textUnder? (v : Value) (name : String) : Option String :=
  match v.asObject?.bind (Table.get? · name) with
  | some (.string s) => some s
  | _ => none

/-- The name of an error without the namespace in front of it and the address behind it. -/
def bareErrorName (s : String) : String :=
  let cs := s.toList.takeWhile (· != ':')
  match Text.cut? '#' cs with
  | some (_, name) => String.ofList name
  | none => String.ofList cs

/-- The error that a refusal of the incident manager names: in its header, or else in its body.
Where the body cannot be read, the header is not looked at either. -/
def cloudError? (r : Http.Reply) : Option String :=
  (cloudBody? r.body).bind fun body =>
    (r.errorType.or ((textUnder? body "code").or (textUnder? body "__type"))).map bareErrorName

end Pager

/-! ### Attempts -/

/-- How a client tries a request again. There is at least one attempt, and after a success there is
no other. -/
structure Retry where
  /-- How often a request is sent at most. -/
  attempts : Nat
  /-- Whether a failure may pass, so that another attempt is worth it. -/
  mayPass : Http.Outcome → Bool
  attempts_pos : 0 < attempts
  final (reply : Http.Reply) (h : Http.isSuccess reply.status = true) :
    mayPass (.reply reply) = false

namespace Retry

/-- Nothing is tried again. -/
def never : Retry where
  attempts := 1
  mayPass _ := false
  attempts_pos := Nat.one_pos
  final _ _ := rfl

/-- The error types that ask for patience. -/
def passingErrors : List String :=
  ["Throttling", "ThrottlingException", "ThrottledException", "RequestThrottledException",
    "TooManyRequestsException", "ProvisionedThroughputExceededException",
    "TransactionInProgressException", "RequestLimitExceeded", "BandwidthLimitExceeded",
    "LimitExceededException", "RequestThrottled", "SlowDown", "PriorRequestNotComplete",
    "EC2ThrottledException", "RequestTimeout", "RequestTimeoutException"]

/-- The policy of the cloud's clients, unless their surroundings choose another one. -/
def standard : Retry where
  attempts := 3
  mayPass
    | .dropped => true
    | .reply r =>
      !Http.isSuccess r.status && ([500, 502, 503, 504].contains r.status
        || (Pager.cloudError? r).any passingErrors.contains)
  attempts_pos := by decide
  final _ h := by simp [h]

/-- Sends a request, and again while the failure may pass and attempts are left. -/
def exchange {σ : Type} (retry : Retry) (wire : Wire σ) (r : Http.Request) :
    (left : Nat) → σ → Http.Outcome × σ
  | 0, s => (.dropped, s)
  | 1, s => wire.exchange r s
  | left + 2, s =>
    let (outcome, s) := wire.exchange r s
    if retry.mayPass outcome then exchange retry wire r (left + 1) s else (outcome, s)

end Retry

/-! ### Pagers -/

/-- A pager that is ready to page. -/
inductive Pager
  | pagerDuty (settings : Settings.PagerDuty) (source : String)
  | incidentManager (settings : Settings.IncidentManager) (retry : Retry)

namespace Pager

/-- The pager that the settings choose, if its target is given, with a policy for the clients of the
cloud. -/
def createWith (retry : Retry) (s : Settings) : Except PagingError Pager :=
  match s.onCall.provider with
  | .incidentManager =>
    if s.onCall.incidentManager.responsePlan = "" then
      .error (.missingSetting "aws_incident_manager.response_plan_arn")
    else .ok (.incidentManager s.onCall.incidentManager retry)
  | .pagerDuty =>
    if s.onCall.pagerDuty.routingKey = "" then
      .error (.missingSetting "pagerduty.routing_key")
    else .ok (.pagerDuty s.onCall.pagerDuty s.name)

/-- The pager that the settings choose, in surroundings that choose no policy. -/
def create (s : Settings) : Except PagingError Pager := createWith .standard s

/-- The name of a pager. -/
def name : Pager → String
  | .pagerDuty .. => "pagerduty"
  | .incidentManager .. => "aws_incident_manager"

/-- How a pager tries a request again. -/
def retry : Pager → Retry
  | .pagerDuty .. => .never
  | .incidentManager _ retry => retry

/-- A request's own target unless it is empty. -/
def target (own : Option String) (configured : String) : String :=
  match own with
  | some s => if s = "" then configured else s
  | none => configured

/-- The body of a PagerDuty event. -/
def pagerDutyEvent (source routingKey incident : String) : Value :=
  .object [("event_action", .string "trigger"),
    ("payload", .object [("custom_details", .object [("incident_id", .string incident)]),
      ("severity", .string "critical"), ("source", .string source),
      ("summary", .string ("Incident " ++ incident))]),
    ("routing_key", .string routingKey)]

/-- Where the incident manager starts incidents, on its own host. -/
def startIncident : Http.Address := { target := "/startIncident", text := "/startIncident" }

/-- The request that pages for an incident. -/
def request (p : Pager) (incident : String) (own : Option Settings.OnCall) :
    Except PagingError Http.Request :=
  match p with
  | .pagerDuty s source =>
    let key := target (own.map (·.pagerDuty.routingKey)) s.routingKey
    match Http.Request.post s.eventsUrl none (pagerDutyEvent source key incident) with
    | .error e => .error (.http e)
    | .ok r => .ok r
  | .incidentManager s _ =>
    let plan := target (own.map (·.incidentManager.responsePlan)) s.responsePlan
    .ok { address := startIncident
          body := .object [("responsePlanArn", .string plan),
            ("title", .string (incidentTitle incident))] }

/-- Whether a reply accepts the page. -/
def accepts (p : Pager) (reply : Http.Reply) : Bool :=
  match p with
  | .pagerDuty .. => Http.isSuccess reply.status
  | .incidentManager .. => Http.isSuccess reply.status && describesIncident reply.body

/-- What came of a page. -/
def judge (p : Pager) (r : Http.Request) : Http.Outcome → Except PagingError Unit
  | .dropped =>
    match p with
    | .pagerDuty .. => .error (.http (.noReply r.address.text))
    | .incidentManager .. => .error (.cloud "no reply")
  | .reply reply =>
    if p.accepts reply then .ok ()
    else
      match p with
      | .pagerDuty .. => .error (.status reply.status reply.body)
      | .incidentManager .. => .error (.cloud ((cloudError? reply).getD "service error"))

/-- Pages for an incident. -/
def trigger {σ : Type} (wire : Wire σ) (p : Pager) (incident : String)
    (own : Option Settings.OnCall) (s : σ) : Except PagingError Unit × σ :=
  match p.request incident own with
  | .error e => (.error e, s)
  | .ok r =>
    let (outcome, s) := p.retry.exchange wire r p.retry.attempts s
    (p.judge r outcome, s)

end Pager

end IncidentRelay
