import IncidentRelay.Json.Value
import IncidentRelay.Settings.Basic

/-!
# Settings as documents

Settings are read from documents and shown as documents: an object per section, with a member per
setting. A section is described once, by its fields, and both directions follow from the
description. Reading starts from the defaults, goes through the members of a document in their
order, ignores members that no field has the name of, and stops at the first value that does not
fit. A section can also be given as an array of its fields in order.

## Main statements

* `Codec.record_decode_nil`: an empty section leaves the defaults.
-/

namespace IncidentRelay

open Json (Value)

/-- What is wrong with a value in a document. -/
inductive FaultKind
  | invalidType
  /-- The value has the right type and is out of range. -/
  | invalidValue
  /-- The text is none of the names to choose from. -/
  | unknownVariant
  /-- An array has too few items. -/
  | invalidLength
  /-- The document itself cannot be read. -/
  | unreadable
  deriving DecidableEq

/-- A value that does not fit, and the names that lead to it. -/
structure Fault where
  kind : FaultKind
  path : List String := []
  deriving DecidableEq

/-- The fault seen from one level further out. -/
def Fault.under (name : String) (f : Fault) : Fault := { f with path := name :: f.path }

/-- How values of a type are written to and read from documents. -/
structure Codec (α : Type) where
  encode : α → Value
  decode : Value → Except Fault α

/-- One setting of a section. -/
structure Field (α : Type) where
  name : String
  encode : α → Value
  assign : Value → α → Except Fault α

/-- The setting of a section that `get` and `set` reach. -/
def Field.of {α β : Type} (name : String) (c : Codec β) (get : α → β) (set : β → α → α) :
    Field α where
  name := name
  encode a := c.encode (get a)
  assign v a :=
    match c.decode v with
    | .ok b => .ok (set b a)
    | .error f => .error (f.under name)

namespace Codec

/-- A text. -/
def string : Codec String where
  encode := .string
  decode
    | .string s => .ok s
    | _ => .error { kind := .invalidType }

/-- A truth value. -/
def flag : Codec Bool where
  encode := .bool
  decode
    | .bool b => .ok b
    | _ => .error { kind := .invalidType }

/-- An integer between two bounds, both included. -/
def integer (low high : Int) : Codec Int where
  encode := .int
  decode
    | .number (.int i) => if low ≤ i ∧ i ≤ high then .ok i else .error { kind := .invalidValue }
    | _ => .error { kind := .invalidType }

/-- A natural number up to a bound, included. -/
def natural (high : Nat) : Codec Nat where
  encode := .nat
  decode v := ((integer 0 high).decode v).map Int.toNat

/-- A text that may be missing. -/
def optionalText : Codec (Option String) where
  encode
    | some s => .string s
    | none => .null
  decode
    | .null => .ok none
    | v => (string.decode v).map some

/-- One of several named values, the first being the one that stands for any without a name. -/
def choice {α : Type} [DecidableEq α] (first : String × α) (more : List (String × α)) :
    Codec α where
  encode a := .string (((first :: more).find? (·.2 = a)).getD first).1
  decode
    | .string s =>
      match (first :: more).lookup s with
      | some a => .ok a
      | none => .error { kind := .unknownVariant }
    | _ => .error { kind := .invalidType }

/-- Texts under names. -/
def texts : Codec (List (String × String)) where
  encode t := .object (t.map fun (k, s) => (k, .string s))
  decode
    | .object fs => fs.mapM fun (k, v) =>
      match string.decode v with
      | .ok s => .ok (k, s)
      | .error f => .error (f.under k)
    | _ => .error { kind := .invalidType }

/-- Reads the members of a section. -/
def assignMembers {α : Type} (fields : List (Field α)) (base : α) :
    List (String × Value) → Except Fault α
  | [] => .ok base
  | (k, v) :: rest =>
    match fields.find? (·.name = k) with
    | none => assignMembers fields base rest
    | some f =>
      match f.assign v base with
      | .ok a => assignMembers fields a rest
      | .error e => .error e

/-- Reads the fields of a section from an array, the first at position `i`. Unless the section is
`complete`, fields beyond the end of the array keep their defaults. -/
def assignItems {α : Type} (complete : Bool) (base : α) (i : Nat) :
    List (Field α) → List Value → Except Fault α
  | [], _ => .ok base
  | _ :: _, [] => if complete then .error { kind := .invalidLength } else .ok base
  | f :: fields, v :: rest =>
    match f.assign v base with
    | .ok a => assignItems complete a (i + 1) fields rest
    | .error e => .error { e with path := toString i :: e.path.drop 1 }

/-- A section with its fields and its defaults. -/
def record {α : Type} (fields : List (Field α)) (base : α) (complete : Bool) : Codec α where
  encode a := .object (Table.ofList (fields.map fun f => (f.name, f.encode a)))
  decode
    | .object fs => assignMembers fields base fs
    | .array xs => assignItems complete base 0 fields xs
    | _ => .error { kind := .invalidType }

/-- An empty section is read as it is by default. -/
theorem record_decode_nil {α : Type} (fields : List (Field α)) (base : α) (complete : Bool) :
    (record fields base complete).decode (.object []) = .ok base := rfl

/-- A port of a service. -/
def portNumber : Codec Nat := natural 65535

/-- A number of 64 bits. -/
def word : Codec Nat := natural maxWord

/-- A signed number of 64 bits. -/
def signedWord : Codec Int := integer (-minSignedSize) (minSignedSize - 1)

end Codec

namespace Settings

open Codec

/-- The listener's section. -/
def Server.codec : Codec Server := record
  [.of "host" string (·.host) fun x s => { s with host := x },
   .of "port" portNumber (·.port) fun x s => { s with port := x },
   .of "public_host" string (·.publicHost) fun x s => { s with publicHost := x }] {} true

/-- The section of the Slack button. -/
def SlackButton.codec : Codec SlackButton := record
  [.of "use_button_ack" flag (·.enabled) fun x s => { s with enabled := x },
   .of "button_text" string (·.text) fun x s => { s with text := x },
   .of "button_style" string (·.style) fun x s => { s with style := x }] {} false

/-- The Slack section. -/
def Slack.codec : Codec Slack := record
  [.of "enable" flag (·.enable) fun x s => { s with enable := x },
   .of "token" string (·.token) fun x s => { s with token := x },
   .of "channel_id" string (·.channelId) fun x s => { s with channelId := x },
   .of "template_path" string (·.templatePath) fun x s => { s with templatePath := x },
   .of "api_url" string (·.apiUrl) fun x s => { s with apiUrl := x },
   .of "message_properties" SlackButton.codec (·.button) fun x s => { s with button := x }]
  {} false

/-- The Telegram section. -/
def Telegram.codec : Codec Telegram := record
  [.of "enable" flag (·.enable) fun x s => { s with enable := x },
   .of "bot_token" string (·.botToken) fun x s => { s with botToken := x },
   .of "chat_id" string (·.chatId) fun x s => { s with chatId := x },
   .of "template_path" string (·.templatePath) fun x s => { s with templatePath := x },
   .of "api_url" string (·.apiUrl) fun x s => { s with apiUrl := x }] {} false

/-- The email section. -/
def Email.codec : Codec Email := record
  [.of "enable" flag (·.enable) fun x s => { s with enable := x },
   .of "smtp_host" string (·.smtpHost) fun x s => { s with smtpHost := x },
   .of "smtp_port" portNumber (·.smtpPort) fun x s => { s with smtpPort := x },
   .of "username" string (·.username) fun x s => { s with username := x },
   .of "password" string (·.password) fun x s => { s with password := x },
   .of "to" string (·.recipients) fun x s => { s with recipients := x },
   .of "subject" string (·.subject) fun x s => { s with subject := x },
   .of "template_path" string (·.templatePath) fun x s => { s with templatePath := x }] {} false

/-- The Microsoft Teams section. -/
def Teams.codec : Codec Teams := record
  [.of "enable" flag (·.enable) fun x s => { s with enable := x },
   .of "power_automate_url" string (·.url) fun x s => { s with url := x },
   .of "template_path" string (·.templatePath) fun x s => { s with templatePath := x },
   .of "other_power_urls" texts (·.otherUrls) fun x s => { s with otherUrls := x }] {} false

/-- The Lark section. -/
def Lark.codec : Codec Lark := record
  [.of "enable" flag (·.enable) fun x s => { s with enable := x },
   .of "webhook_url" string (·.webhookUrl) fun x s => { s with webhookUrl := x },
   .of "template_path" string (·.templatePath) fun x s => { s with templatePath := x }] {} false

/-- The section of the notification channels. -/
def Alert.codec : Codec Alert := record
  [.of "debug_body" flag (·.debugBody) fun x s => { s with debugBody := x },
   .of "slack" Slack.codec (·.slack) fun x s => { s with slack := x },
   .of "telegram" Telegram.codec (·.telegram) fun x s => { s with telegram := x },
   .of "email" Email.codec (·.email) fun x s => { s with email := x },
   .of "msteams" Teams.codec (·.teams) fun x s => { s with teams := x },
   .of "lark" Lark.codec (·.lark) fun x s => { s with lark := x }] {} false

/-- The section of AWS Incident Manager. -/
def IncidentManager.codec : Codec IncidentManager := record
  [.of "response_plan_arn" string (·.responsePlan) fun x s => { s with responsePlan := x }] {} false

/-- The PagerDuty section. -/
def PagerDuty.codec : Codec PagerDuty := record
  [.of "routing_key" string (·.routingKey) fun x s => { s with routingKey := x },
   .of "events_url" string (·.eventsUrl) fun x s => { s with eventsUrl := x }] {} false

/-- The names of the paging services. -/
def pagingServices : Codec PagingService :=
  choice ("aws_incident_manager", .incidentManager) [("pagerduty", .pagerDuty)]

/-- The names of the escalation stores. -/
def storeBackends : Codec StoreBackend := choice ("redis", .redis) [("memory", .memory)]

/-- The names of the log formats. -/
def logFormats : Codec LogFormat := choice ("text", .text) [("json", .json)]

/-- The on-call section. -/
def OnCall.codec : Codec OnCall := record
  [.of "enable" flag (·.enable) fun x s => { s with enable := x },
   .of "initialized_only" flag (·.initializedOnly) fun x s => { s with initializedOnly := x },
   .of "wait_minutes" word (·.waitMinutes) fun x s => { s with waitMinutes := x },
   .of "provider" pagingServices (·.provider) fun x s => { s with provider := x },
   .of "aws_incident_manager" IncidentManager.codec (·.incidentManager)
     fun x s => { s with incidentManager := x },
   .of "pagerduty" PagerDuty.codec (·.pagerDuty) fun x s => { s with pagerDuty := x }] {} false

/-- The Redis section. -/
def Redis.codec : Codec Redis := record
  [.of "host" string (·.host) fun x s => { s with host := x },
   .of "port" portNumber (·.port) fun x s => { s with port := x },
   .of "password" optionalText (·.password) fun x s => { s with password := x },
   .of "db" signedWord (·.db) fun x s => { s with db := x },
   .of "tls" flag (·.tls) fun x s => { s with tls := x },
   .of "insecure_skip_verify" flag (·.insecureSkipVerify)
     fun x s => { s with insecureSkipVerify := x }] {} false

/-- The section of the escalation store. -/
def Store.codec : Codec Store := record
  [.of "backend" storeBackends (·.backend) fun x s => { s with backend := x },
   .of "redis" Redis.codec (·.redis) fun x s => { s with redis := x }] {} false

/-- The metrics section. -/
def Metrics.codec : Codec Metrics := record
  [.of "enabled" flag (·.enabled) fun x s => { s with enabled := x }] {} false

/-- The whole document. -/
def codec : Codec Settings := record
  [.of "name" string (·.name) fun x s => { s with name := x },
   .of "log_level" string (·.logLevel) fun x s => { s with logLevel := x },
   .of "log_format" logFormats (·.logFormat) fun x s => { s with logFormat := x },
   .of "server" Server.codec (·.server) fun x s => { s with server := x },
   .of "alert" Alert.codec (·.alert) fun x s => { s with alert := x },
   .of "oncall" OnCall.codec (·.onCall) fun x s => { s with onCall := x },
   .of "store" Store.codec (·.store) fun x s => { s with store := x },
   .of "metrics" Metrics.codec (·.metrics) fun x s => { s with metrics := x }] {} true

end Settings

end IncidentRelay
