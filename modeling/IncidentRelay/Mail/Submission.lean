import IncidentRelay.Mail.Message

/-!
# Submitting mail

The conversation with a mail server: greeting, encryption, proof of identity, the envelope, and the
message. Each command waits for a reply, and the first refusal ends the conversation. What the
server can do is read from its reply to the greeting.
-/

namespace IncidentRelay.Mail

open Text

/-- What the client sends. -/
inductive Command
  /-- Opens the connection, encrypted from its first byte or not. -/
  | connect (encrypted : Bool)
  | hello
  | startTls
  /-- Proves the sender's identity. -/
  | identify (user password : String)
  | sender (m : Message)
  | recipient (address : String)
  | data
  /-- The message up to its final dot. -/
  | message (m : Message)
  | quit

/-- The reply of a server: a code and lines of text. -/
structure Reply where
  code : Nat
  lines : List String

/-- Why a message was not submitted. -/
inductive SubmissionError
  /-- The server refused a command. -/
  | refused (code : Nat) (text : String)
  /-- The reply has no code of a known kind. -/
  | unreadable
  /-- The client has no use for what the server offers. -/
  | unusable (why : String)

/-- The text of a submission error. -/
def SubmissionError.message : SubmissionError → String
  | .refused code text =>
    (if code < 500 then "transient" else "permanent") ++ " error (" ++ toString code ++ "): " ++
      text
  | .unreadable => "response error"
  | .unusable why => "internal client error: " ++ why

/-- The text of a command as it is sent, without the message itself. -/
def Command.line : Command → String
  | .connect _ => ""
  | .hello => "EHLO"
  | .startTls => "STARTTLS"
  | .identify user password =>
    "AUTH PLAIN " ++ String.ofList
      (base64 (0 :: Utf8.encode user ++ 0 :: Utf8.encode password))
  | .sender m =>
    "MAIL FROM:<" ++ m.sender.address ++ ">" ++ (if m.hasWideAddress then " SMTPUTF8" else "")
      ++ (if m.isWide then " BODY=8BITMIME" else "")
  | .recipient address => "RCPT TO:<" ++ address ++ ">"
  | .data => "DATA"
  | .message _ => "."
  | .quit => "QUIT"

/-- Whether a reply tells that the server can do something: one of its lines after the first begins
with the word for it. -/
def Reply.offers (r : Reply) (feature : String) : Bool :=
  (r.lines.drop 1).any fun l => (split ' ' l).head? = some feature

/-- Whether a reply tells that the server takes plain passwords. -/
def Reply.takesPasswords (r : Reply) : Bool :=
  (r.lines.drop 1).any fun l => (split ' ' l).head? = some "AUTH" ∧ "PLAIN" ∈ split ' ' l

/-- What the server has to offer for a message. -/
def lacking? (greeting : Reply) (m : Message) : Option String :=
  if m.hasWideAddress ∧ ¬greeting.offers "SMTPUTF8" then
    some "Envelope contains non-ascii chars but server does not support SMTPUTF8"
  else if m.isWide ∧ ¬greeting.offers "8BITMIME" then
    some "Message contains non-ascii chars but server does not support 8BITMIME"
  else none

/-- How a session with a server is opened. -/
structure Session where
  /-- Whether the connection is encrypted from its first byte. -/
  encrypted : Bool
  user : String
  password : String
  message : Message

/-- Sends commands until one is refused: what became of it, the last reply, and the commands that
were sent, last first. -/
def converse (answer : Command → Reply) (sent : List Command) (last : Reply) :
    List Command → Except SubmissionError Reply × List Command
  | [] => (.ok last, sent)
  | c :: rest =>
    let r := answer c
    if 200 ≤ r.code ∧ r.code < 400 then converse answer (c :: sent) r rest
    else if 400 ≤ r.code ∧ r.code < 600 then
      (.error (.refused r.code (" ".intercalate r.lines)), c :: sent)
    else (.error .unreadable, c :: sent)

/-- The commands that carry a message. -/
def Message.commands (m : Message) : List Command :=
  .sender m :: m.recipients.map (fun r => .recipient r.address) ++ [.data, .message m]

/-- The code of a reply that asks for more proof of identity. -/
def challengeCode : Nat := 334

/-- Goes on after the last greeting. -/
def identifyAndSend (answer : Command → Reply) (s : Session) (sent : List Command)
    (greeting : Reply) : Except SubmissionError Unit × List Command :=
  if !greeting.takesPasswords then
    (.error (.unusable "No compatible authentication mechanism was found"), sent)
  else
    match converse answer sent greeting [.identify s.user s.password] with
    | (.error e, sent) => (.error e, sent)
    | (.ok r, sent) =>
      if r.code = challengeCode then
        (.error (.unusable "This mechanism does not expect a challenge"), sent)
      else
        match lacking? greeting s.message with
        | some what => (.error (.unusable what), sent)
        | none =>
          match converse answer sent greeting s.message.commands with
          | (.error e, sent) => (.error e, sent)
          | (.ok _, sent) => (.ok (), .quit :: sent)

/-- Submits a message: what became of it, and the commands that were sent, in order. -/
def submit (answer : Command → Reply) (s : Session) : Except SubmissionError Unit × List Command :=
  let (result, sent) : Except SubmissionError Unit × List Command :=
    match converse answer [] ⟨0, []⟩ [.connect s.encrypted, .hello] with
    | (.error e, sent) => (.error e, sent)
    | (.ok greeting, sent) =>
      if s.encrypted then identifyAndSend answer s sent greeting
      else if !greeting.offers "STARTTLS" then
        (.error (.unusable "STARTTLS is not supported on this server"), sent)
      else
        match converse answer sent greeting [.startTls, .hello] with
        | (.error e, sent) => (.error e, sent)
        | (.ok greeting, sent) => identifyAndSend answer s sent greeting
  (result, sent.reverse)

end IncidentRelay.Mail
