import IncidentRelay.Text.Ascii
import IncidentRelay.Word

/-!
# Settings

Everything an operator can set: the listener, the notification channels, on-call escalation, the
escalation store, logging and metrics. Each record's field defaults are the service's defaults.

## Main statements

* `OnCall.wait_eq`: below the saturation bound the acknowledgment window is sixty seconds a minute.
-/

namespace IncidentRelay

/-- How log lines are written. -/
inductive LogFormat
  | text
  | json
  deriving DecidableEq

/-- The paging services. -/
inductive PagingService
  | incidentManager
  | pagerDuty
  deriving DecidableEq

/-- The escalation stores. -/
inductive StoreBackend
  | redis
  /-- Records live in the process and are lost with it. -/
  | memory
  deriving DecidableEq

namespace Settings

/-- The HTTP listener. -/
structure Server where
  host : String := "0.0.0.0"
  port : Nat := 3000
  /-- The base of acknowledgment links, as callers outside see it. -/
  publicHost : String := "http://localhost:3000"
  deriving DecidableEq

/-- The look of the acknowledge button in a Slack message. -/
structure SlackButton where
  enabled : Bool := false
  text : String := ""
  style : String := ""
  deriving DecidableEq

/-- The Slack channel. -/
structure Slack where
  enable : Bool := false
  token : String := ""
  channelId : String := ""
  templatePath : String := ""
  apiUrl : String := "https://slack.com/api"
  button : SlackButton := {}
  deriving DecidableEq

/-- The Telegram channel. -/
structure Telegram where
  enable : Bool := false
  botToken : String := ""
  chatId : String := ""
  templatePath : String := ""
  apiUrl : String := "https://api.telegram.org"
  deriving DecidableEq

/-- The email channel. -/
structure Email where
  enable : Bool := false
  smtpHost : String := ""
  smtpPort : Nat := 587
  username : String := ""
  password : String := ""
  /-- Recipients, separated by commas. -/
  recipients : String := ""
  subject : String := "Incident alert"
  templatePath : String := ""
  deriving DecidableEq

/-- The Microsoft Teams channel. -/
structure Teams where
  enable : Bool := false
  url : String := ""
  templatePath : String := ""
  /-- Named alternative addresses that a request can choose, in the order of their names. -/
  otherUrls : List (String × String) := []
  deriving DecidableEq

/-- The Lark channel. -/
structure Lark where
  enable : Bool := false
  webhookUrl : String := ""
  templatePath : String := ""
  deriving DecidableEq

/-- The notification channels. -/
structure Alert where
  /-- Whether raw request bodies are logged. -/
  debugBody : Bool := false
  slack : Slack := {}
  telegram : Telegram := {}
  email : Email := {}
  teams : Teams := {}
  lark : Lark := {}
  deriving DecidableEq

/-- AWS Incident Manager. -/
structure IncidentManager where
  responsePlan : String := ""
  deriving DecidableEq

/-- PagerDuty. -/
structure PagerDuty where
  routingKey : String := ""
  eventsUrl : String := "https://events.pagerduty.com/v2/enqueue"
  deriving DecidableEq

/-- On-call escalation. -/
structure OnCall where
  enable : Bool := false
  /-- Builds the escalation workflow although escalation is off, so that requests can turn it on. -/
  initializedOnly : Bool := false
  /-- How long an acknowledgment is waited for; zero pages at once. -/
  waitMinutes : Nat := 0
  provider : PagingService := .incidentManager
  incidentManager : IncidentManager := {}
  pagerDuty : PagerDuty := {}
  deriving DecidableEq

/-- The connection to Redis. -/
structure Redis where
  host : String := "127.0.0.1"
  port : Nat := 6379
  password : Option String := none
  db : Int := 0
  tls : Bool := false
  insecureSkipVerify : Bool := false
  deriving DecidableEq

/-- The escalation store. -/
structure Store where
  backend : StoreBackend := .redis
  redis : Redis := {}
  deriving DecidableEq

/-- The metrics page. -/
structure Metrics where
  enabled : Bool := false
  deriving DecidableEq

end Settings

/-- All settings of the service. -/
structure Settings where
  /-- The service's name, which pages give as their source. -/
  name : String := "incidentd"
  logLevel : String := "info"
  logFormat : LogFormat := .text
  server : Settings.Server := {}
  alert : Settings.Alert := {}
  onCall : Settings.OnCall := {}
  store : Settings.Store := {}
  metrics : Settings.Metrics := {}
  deriving DecidableEq

/-- The longest acknowledgment window in minutes, thirty days. -/
def maxWaitMinutes : Nat := 30 * 24 * 60

/-- How many seconds a record outlives its acknowledgment window. -/
def recordGrace : Nat := 60

namespace Settings

/-- The acknowledgment window in seconds. -/
def OnCall.wait (s : OnCall) : Nat := min (s.waitMinutes * 60) maxWord

/-- A window that fits has sixty seconds a minute. -/
theorem OnCall.wait_eq {s : OnCall} (h : s.waitMinutes * 60 ≤ maxWord) :
    s.wait = s.waitMinutes * 60 := Nat.min_eq_left h

/-- Whether the escalation workflow has to be there. -/
def OnCall.workflowRequired (s : OnCall) : Bool := s.enable || s.initializedOnly

/-- The path under which incidents are acknowledged. -/
def ackPath : String := "/api/ack/"

/-- The acknowledgment link of an incident: the public base without slashes at its end, then the
path of the incident. -/
def ackUrl (s : Settings) (incident : String) : String :=
  String.ofList (s.server.publicHost.toList.reverse.dropWhile (· == '/')).reverse
    ++ ackPath ++ incident

end Settings

end IncidentRelay
