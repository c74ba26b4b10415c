import IncidentRelay.Json.Value
import IncidentRelay.Text.Ascii

/-!
# Incidents

An incident is one alert that needs a human: the payload its reporter posted, under an identifier
of its own. Whether the payload reports that the trouble is over is read from its status fields.

## Main statements

* `Incident.ackUrl?_withAckUrl`: an incident carries an acknowledgment link once one is given.
-/

namespace IncidentRelay

open Json (Fields Value)

/-- The payload of an incident: a JSON object. -/
abbrev Content := Fields

/-- The member that carries the acknowledgment link. -/
def ackUrlKey : String := "AckURL"

/-- The members that can report a status, the most important first. Their names are compared
without regard to ASCII case. -/
def statusFields : List String := ["status", "state", "alertState", "alert_state"]

/-- The first member whose name equals `field` up to ASCII case, if it holds a string. -/
def statusText? (content : Content) (field : String) : Option String :=
  (content.find? fun m => Text.equalsIgnoringCase m.1 field).bind (·.2.asString?)

/-- Whether a payload reports a resolved incident: the first status field with a text decides. -/
def isResolved (content : Content) : Bool :=
  match statusFields.findSome? (statusText? content) with
  | some status => Text.equalsIgnoringCase status "resolved"
  | none => false

/-- One occurrence of an alert that needs a human. -/
structure Incident where
  id : String
  /-- The team it was reported for, empty when there is none. -/
  team : String
  content : Content
  /-- Whether the payload reports that the trouble is over. -/
  resolved : Bool

namespace Incident

/-- A new incident under the given identifier. -/
def create (id team : String) (content : Content) : Incident :=
  { id, team, content, resolved := isResolved content }

/-- The acknowledgment link that the payload carries. -/
def ackUrl? (i : Incident) : Option String := (i.content.get? ackUrlKey).bind (·.asString?)

/-- The incident with an acknowledgment link in its payload. -/
def withAckUrl (i : Incident) (url : String) : Incident :=
  { i with content := i.content.insert ackUrlKey (.string url) }

/-- The link that an incident was given is the one that it carries. -/
theorem ackUrl?_withAckUrl (i : Incident) (url : String) :
    (i.withAckUrl url).ackUrl? = some url := by
  simp [ackUrl?, withAckUrl, Table.get?_insert, Value.asString?]

/-- The identifier that a number of 122 random bits stands for: thirty-two hexadecimal digits in
five groups, with the marks of a random identifier in their places. -/
def identifier (random : Nat) : String :=
  let digit (i : Nat) : Char := Text.hexDigit false (random / Nat.pow 16 i % 16)
  let group (first count : Nat) : List Char := (List.range count).map fun i => digit (first + i)
  let variant : Char := Text.hexDigit false (8 + random / Nat.pow 16 30 % 4)
  String.ofList (group 0 8 ++ '-' :: group 8 4 ++ '-' :: '4' :: group 12 3
    ++ '-' :: variant :: group 15 3 ++ '-' :: group 18 12)

end Incident

end IncidentRelay
