import IncidentRelay.Channel.Error
import IncidentRelay.Incident
import IncidentRelay.Json.Reader
import IncidentRelay.Settings.Basic
import IncidentRelay.Template.Basic

/-!
# Slack messages

A message is a coloured attachment: green for a resolved incident and red for any other. When the
acknowledgment link goes into a button, the text is rendered without it, so that the link is offered
in one place only. Slack accepts most requests and tells in the reply whether it took the message.
-/

namespace IncidentRelay

open Json (Value)

namespace Slack

/-- The colour of resolved incidents. -/
def resolvedColor : String := "#36A64F"

/-- The colour of all other incidents. -/
def unresolvedColor : String := "#C70039"

/-- The first text unless it is empty. -/
def orDefault (s fallback : String) : String := if s = "" then fallback else s

/-- A message with a coloured text. -/
def plainMessage (settings : Settings.Slack) (text color : String) : Value :=
  .object [("attachments", .array [.object [("color", .string color), ("text", .string text)]]),
    ("channel", .string settings.channelId)]

/-- A message with a text and an acknowledge button. -/
def buttonMessage (settings : Settings.Slack) (text url incident : String) : Value :=
  let label := orDefault settings.button.text "Acknowledge Alert"
  let style := orDefault settings.button.style "primary"
  let button : Value :=
    .object [("action_id", .string "ack_incident"), ("style", .string style),
      ("text", .object [("text", .string label), ("type", .string "plain_text")]),
      ("type", .string "button"), ("url", .string url), ("value", .string incident)]
  let section_ : Value :=
    .object [("text", .object [("text", .string text), ("type", .string "mrkdwn")]),
      ("type", .string "section")]
  let actions : Value :=
    .object [("block_id", .string "incident_actions"), ("elements", .array [button]),
      ("type", .string "actions")]
  .object [("attachments", .array [.object [("blocks", .array [section_, actions]),
      ("color", .string unresolvedColor)]]),
    ("channel", .string settings.channelId)]

/-- The message for an incident, with `render` for the template. -/
def payload (render : Content → Except TemplateError String) (settings : Settings.Slack)
    (i : Incident) : Except TemplateError Value :=
  if i.resolved then (render i.content).map fun text => plainMessage settings text resolvedColor
  else
    match i.ackUrl?, settings.button.enabled with
    | some url, true =>
      (render (Table.erase i.content ackUrlKey)).map fun text =>
        buttonMessage settings text url i.id
    | _, _ => (render i.content).map fun text => plainMessage settings text unresolvedColor

/-! ### Replies -/

/-- The names of the outermost members of a text, each as often as it occurs. -/
def memberNames : (depth : Nat) → List Json.Token → List String
  | _, [] => []
  | d, .openBrace :: rest | d, .openBracket :: rest => memberNames (d + 1) rest
  | d, .closeBrace :: rest | d, .closeBracket :: rest => memberNames (d - 1) rest
  | 1, .string s :: .colon :: rest => s :: memberNames 1 rest
  | d, _ :: rest => memberNames d rest

/-- Whether no member is given twice of those that count. -/
def isUnambiguous (text : List Char) : Bool :=
  let names := memberNames 0 ((Json.scan text).getD [])
  names.count "ok" ≤ 1 && names.count "error" ≤ 1

/-- What a reply says: that the message was taken, or why not. -/
structure Verdict where
  ok : Bool
  error : Option String

/-- The reason in a reply, which may be missing or null. -/
def reason? : Option Value → Option (Option String)
  | none | some .null => some none
  | some (.string s) => some (some s)
  | some _ => none

/-- Reads a reply: an object with both parts by name, or an array with both in order. -/
def Verdict.read (body : String) : Option Verdict :=
  match Json.read body.toList with
  | some (.object fields) =>
    match Table.get? fields "ok", reason? (Table.get? fields "error") with
    | some (.bool ok), some error =>
      if isUnambiguous body.toList then some { ok, error } else none
    | _, _ => none
  | some (.array [.bool ok]) => some { ok, error := none }
  | some (.array [.bool ok, e]) => (reason? (some e)).map fun error => { ok, error }
  | _ => none

/-- What came of a message that was accepted with this body. -/
def judge (body : String) : Except ChannelError Unit :=
  match Verdict.read body with
  | none => .error (.http .unreadable)
  | some v =>
    if v.ok then .ok () else .error (.rejected "slack" (v.error.getD "unknown error"))

end Slack

end IncidentRelay
