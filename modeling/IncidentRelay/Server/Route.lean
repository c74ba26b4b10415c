import IncidentRelay.Text.Lines

/-!
# Routes

What the paths of the service lead to. A path is compared as it was written, letter by letter, and
a place for a value takes exactly one segment, which must not be empty.
-/

namespace IncidentRelay.Server

/-- What a path leads to. -/
inductive Route
  | health
  | metrics
  /-- Alerts without a team. -/
  | incidents
  /-- Alerts for a team, whose name is written as in the path. -/
  | teamIncidents (team : String)
  /-- The acknowledgment of an incident, written as in the path. -/
  | acknowledge (incident : String)
  deriving DecidableEq

namespace Route

/-- The route of a path. -/
def ofPath? (path : String) : Option Route :=
  match Text.split '/' path with
  | ["", "healthz"] => some .health
  | ["", "metrics"] => some .metrics
  | ["", "api", "incidents"] => some .incidents
  | ["", "api", "incidents", "teams", team] =>
    if team = "" then none else some (.teamIncidents team)
  | ["", "api", "ack", incident] => if incident = "" then none else some (.acknowledge incident)
  | _ => none

/-- The methods of a route. -/
def methods : Route → List String
  | .health | .metrics => ["GET", "HEAD"]
  | .incidents | .teamIncidents _ => ["POST"]
  | .acknowledge _ => ["GET", "HEAD", "POST"]

end Route

end IncidentRelay.Server
