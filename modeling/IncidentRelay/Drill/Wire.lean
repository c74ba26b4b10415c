import IncidentRelay.Wire

/-!
# A wire for drills

Services outside that reply as they are told. Each request takes the next reply of a script, and
once the script is over every request is granted. A mail server accepts everything but what it was
told to answer otherwise. What was sent is kept.
-/

namespace IncidentRelay

/-- A mail that was sent up to its final dot, with the commands before it. -/
structure SubmittedMail where
  commands : List Mail.Command
  message : Mail.Message

/-- The services outside in a drill. -/
structure DrillWire where
  /-- What comes of the next requests. -/
  script : List Http.Outcome := []
  /-- What the mail server says to commands, by their name. -/
  mailReplies : Table String := []
  /-- The requests sent, last first. -/
  requests : List Http.Request := []
  /-- The mails sent, last first. -/
  mails : List SubmittedMail := []

namespace DrillWire

/-- Sends a request. -/
def exchange (r : Http.Request) (w : DrillWire) : Http.Outcome × DrillWire :=
  match w.script with
  | [] => (.reply {}, { w with requests := r :: w.requests })
  | o :: rest => (o, { w with script := rest, requests := r :: w.requests })

/-- The name under which the reply to a command can be told. -/
def commandName : Mail.Command → String
  | .connect _ => "CONNECT"
  | .hello => "EHLO"
  | .startTls => "STARTTLS"
  | .identify .. => "AUTH"
  | .sender _ => "MAIL"
  | .recipient _ => "RCPT"
  | .data => "DATA"
  | .message _ => "END"
  | .quit => "QUIT"

/-- What the mail server says by itself. -/
def usualReply : Mail.Command → Mail.Reply
  | .connect _ => ⟨220, ["ready"]⟩
  | .hello => ⟨250, ["hello", "8BITMIME", "SMTPUTF8", "AUTH PLAIN LOGIN", "STARTTLS"]⟩
  | .startTls => ⟨220, ["go ahead"]⟩
  | .identify .. => ⟨235, ["welcome"]⟩
  | .data => ⟨354, ["end with a dot"]⟩
  | .quit => ⟨221, ["bye"]⟩
  | .sender _ | .recipient _ | .message _ => ⟨250, ["ok"]⟩

/-- The reply of a text: each line has the code, a mark and its words. -/
def replyOfText (s : String) : Mail.Reply :=
  let lines := Text.lines s.toList
  let code := match lines with
    | l :: _ => Text.natural? (String.ofList (l.take 3))
    | [] => none
  ⟨code.getD 0, lines.map fun l => String.ofList (l.drop 4)⟩

/-- What the mail server says to a command. -/
def mailReply (w : DrillWire) (c : Mail.Command) : Mail.Reply :=
  match Table.get? w.mailReplies (commandName c) with
  | some s => replyOfText s
  | none => usualReply c

/-- The message among the commands of a session. -/
def sentMessage? : List Mail.Command → Option Mail.Message
  | [] => none
  | .message m :: _ => some m
  | _ :: rest => sentMessage? rest

/-- Submits a mail. -/
def submit (session : Mail.Session) (w : DrillWire) :
    Except Mail.SubmissionError Unit × DrillWire :=
  let (result, commands) := Mail.submit w.mailReply session
  match sentMessage? commands with
  | some message => (result, { w with mails := ⟨commands, message⟩ :: w.mails })
  | none => (result, w)

/-- The wire of a drill, which is a part of a larger state. -/
def wire {σ : Type} (get : σ → DrillWire) (set : σ → DrillWire → σ) : Wire σ where
  exchange r s :=
    let (o, w) := (get s).exchange r
    (o, set s w)
  submit session s :=
    let (o, w) := (get s).submit session
    (o, set s w)

end DrillWire

end IncidentRelay
