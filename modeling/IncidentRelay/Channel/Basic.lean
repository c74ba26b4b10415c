import IncidentRelay.Channel.Post
import IncidentRelay.Channel.Slack
import IncidentRelay.Template.Registry
import IncidentRelay.Wire

/-!
# Notification channels

A channel delivers incidents to one service outside. What it sends is made from the incident, by a
template that belongs to the channel; what came of it is read from the reply.

## Main statements

* `Channel.deliver_of_error`: a channel that cannot make its message sends nothing.
-/

namespace IncidentRelay

open Json (Value)

/-- A channel that is ready to deliver. -/
inductive Channel
  | slack (settings : Settings.Slack) (template : MessageTemplate)
  | telegram (settings : Settings.Telegram) (template : MessageTemplate)
  | email (settings : Settings.Email) (template : MessageTemplate)
  | teams (settings : Settings.Teams) (template : MessageTemplate)
  | lark (settings : Settings.Lark) (template : MessageTemplate)

/-- What a channel sends. -/
inductive Delivery
  | web (request : Http.Request)
  | mail (session : Mail.Session)

/-- The text without slashes at its end. -/
def dropSlashes (s : String) : String :=
  String.ofList (Text.trimRight (· == '/') s.toList)

/-- Whether an address is that of an old Teams connector, which takes a text alone. -/
def isTeamsConnector (url : String) : Bool :=
  Text.occursIn "webhook.office.com".toList url.toList

/-- The port on which mail servers expect encryption from the first byte. -/
def encryptedMailPort : Nat := 465

/-- A step of making a delivery, with its error as the channel's. -/
def orFail {α ε : Type} (f : ε → ChannelError) : Except ε α → Except ChannelError α
  | .ok a => .ok a
  | .error e => .error (f e)

/-- The error of a template as the channel's. -/
def templateFailed (e : TemplateError) : ChannelError := .template e.message

namespace Channel

/-- The name of a channel. -/
def name : Channel → String
  | .slack .. => "slack"
  | .telegram .. => "telegram"
  | .email .. => "email"
  | .teams .. => "msteams"
  | .lark .. => "lark"

/-- A request that posts a body. -/
def post (url : String) (authorization : Option String) (body : Value) :
    Except ChannelError Delivery :=
  (orFail .http (Http.Request.post url authorization body)).map .web

/-- The mail for an incident, with the body that the template shows. -/
def mailSession (s : Settings.Email) (body : String) : Except ChannelError Mail.Session :=
  match Mail.Mailbox.read s.username with
  | .error e => .error (.email ("invalid sender address: " ++ e.message))
  | .ok sender =>
    match Mail.parseRecipients s.recipients with
    | .error e => .error (.email e.message)
    | .ok recipients =>
      .ok { encrypted := s.smtpPort = encryptedMailPort
            user := s.username
            password := s.password
            message := { sender, recipients, subject := s.subject, body } }

/-- The body of a Teams request: a text alone, or the content with the text in it. -/
def teamsBody (url text : String) (content : Content) : Value :=
  if isTeamsConnector url then .object [("text", .string text)]
  else .object (Table.insert content "messageText" (.string text))

/-- What a channel sends for an incident. -/
def delivery (files : Files) (c : Channel) (i : Incident) : Except ChannelError Delivery :=
  let text (t : MessageTemplate) : Except ChannelError String :=
    orFail templateFailed (t.render files i.content)
  match c with
  | .slack s t => do
    let body ← orFail templateFailed (Slack.payload (t.render files) s i)
    post (dropSlashes s.apiUrl ++ "/chat.postMessage") (some ("Bearer " ++ s.token)) body
  | .telegram s t => do
    let text ← text t
    let body := .object [("chat_id", .string s.chatId), ("parse_mode", .string "HTML"),
      ("text", .string text)]
    post (dropSlashes s.apiUrl ++ "/bot" ++ s.botToken ++ "/sendMessage") none body
  | .email s t => do
    let text ← text t
    (mailSession s text).map .mail
  | .teams s t => do
    let text ← text t
    post s.url none (teamsBody s.url text i.content)
  | .lark s t => do
    let text ← text t
    post s.webhookUrl none (Post.ofText i.resolved text).toJson

/-- What came of a request that was answered. -/
def judge (c : Channel) (r : Http.Reply) : Except ChannelError Unit :=
  if !Http.isSuccess r.status then .error (.status c.name r.status r.body)
  else
    match c with
    | .slack .. => Slack.judge r.body
    | _ => .ok ()

/-- Sends what a channel has to send. -/
def send {σ : Type} (wire : Wire σ) (c : Channel) (d : Delivery) (s : σ) :
    Except ChannelError Unit × σ :=
  match d with
  | .web request =>
    match wire.exchange request s with
    | (.reply r, s) => (c.judge r, s)
    | (.dropped, s) => (.error (.http (.noReply request.address.text)), s)
  | .mail session =>
    match wire.submit session s with
    | (.ok (), s) => (.ok (), s)
    | (.error e, s) => (.error (.email e.message), s)

/-- Delivers an incident. -/
def deliver {σ : Type} (wire : Wire σ) (files : Files) (c : Channel) (i : Incident) (s : σ) :
    Except ChannelError Unit × σ :=
  match c.delivery files i with
  | .error e => (.error e, s)
  | .ok d => c.send wire d s

/-- A message that cannot be made is not sent. -/
theorem deliver_of_error {σ : Type} (wire : Wire σ) {files : Files} {c : Channel} {i : Incident}
    {e : ChannelError} (h : c.delivery files i = .error e) (s : σ) :
    c.deliver wire files i s = (.error e, s) := by
  simp only [deliver, h]

end Channel

end IncidentRelay
