import IncidentRelay.Json.Reader
import IncidentRelay.Metrics
import IncidentRelay.Relay
import IncidentRelay.Server.Query
import IncidentRelay.Server.Response
import IncidentRelay.Server.Route
import IncidentRelay.Server.Target

/-!
# The server

How requests are answered. An alert is a JSON object, posted for a team or for none; an incident is
acknowledged by its link; and there are pages on the service's health and its metrics. What cannot
be accepted is refused before anything is done or counted.

## Main statements

* `respond_of_method`: a method that the route lacks is answered without a call to the outside.
-/

namespace IncidentRelay.Server

/-- A request to the service. -/
structure Request where
  method : String
  target : Target
  body : List UInt8 := []

/-- Whether a text can be the method of a request. -/
def isMethod (s : String) : Bool :=
  s ≠ "" && s.toList.all fun c => Text.isAlphanumeric c || "!#$%&'*+-.^_`|~".toList.contains c

/-- Reads a request, if its method and its target can be expressed at all. -/
def Request.read? (method target : String) (body : List UInt8) : Option Request :=
  if isMethod method then (Target.read? target).map fun t => { method, target := t, body }
  else none

/-- The longest body of an alert in bytes, two mebibytes. -/
def longestBody : Nat := 2 * 1024 * 1024

/-- What is wrong with a place of a path whose bytes are no text. -/
def badPlace (name : String) : Response :=
  .text 400 ("Invalid URL: Invalid UTF-8 in `" ++ name ++ "`")

/-- The text at a place of a path. -/
def placeText? (raw : String) : Option String :=
  (Text.Utf8.decode? (Text.percentDecode raw.toList)).map String.ofList

/-- The payload of a body: a JSON object. -/
def payload? (body : List UInt8) : Option Content :=
  ((Text.Utf8.decode? body).bind Json.read).bind (·.asObject?)

/-- What comes of a request: a response, or nothing if it breaks off. -/
abbrev Answer := Except OnCallError Response

variable {κ : Type}

/-- The response to an alert that went through or not. Only a window that cannot be counted breaks
the request off. -/
def incidentAnswer : Except IncidentError Incident → Answer
  | .ok i => .ok (.json 201 [("id", .string i.id), ("status", .string "Incident created")])
  | .error (.onCall .windowOverflow) => .error .windowOverflow
  | .error e => .ok (.error 500 e.message)

/-- The response to an acknowledgment that went through or not. -/
def acknowledgeAnswer : Except OnCallError Unit → Answer
  | .ok () => .ok (.json 201 [("status", .string "success")])
  | .error e => .ok (.error 500 e.message)

/-- Takes an alert. -/
def takeAlert (r : Relay κ) (fresh team : String) (q : Request) : Process κ Answer :=
  if longestBody < q.body.length then
    .done (.ok (.text 413 "Failed to buffer the request body: length limit exceeded"))
  else
    match payload? q.body with
    | none => .done (.ok (.error 400 "Invalid input"))
    | some content =>
      (r.createIncident fresh team content (.ofQuery (q.target.query.getD "").toList)).bind
        fun x => .done (incidentAnswer x)

/-- Answers a request whose method the route has. -/
def serve (r : Relay κ) (counters : Counters) (fresh : String) (q : Request) :
    Route → Process κ Answer
  | .health => .done (.ok (.text 200 "ok"))
  | .metrics => .done (.ok (.text 200 (counters.page)))
  | .incidents => takeAlert r fresh "" q
  | .teamIncidents raw =>
    match placeText? raw with
    | some team => takeAlert r fresh team q
    | none => .done (.ok (badPlace "team_id"))
  | .acknowledge raw =>
    match placeText? raw with
    | some incident => (r.acknowledge incident).bind fun x => .done (acknowledgeAnswer x)
    | none => .done (.ok (badPlace "incident_id"))

/-- The route of a request. The page on metrics is there only if the service has one. -/
def routeOf? (metrics : Bool) (q : Request) : Option Route :=
  (Route.ofPath? q.target.path).filter fun route => route ≠ .metrics || metrics

/-- The answer as far as the request asks for it: without its body if the method says so. -/
def shorten (method : String) (a : Answer) : Answer :=
  if method = "HEAD" then a.map Response.withoutBody else a

/-- Answers a request. `counters` are the counters at this moment, if there is a page on them, and
`fresh` is an identifier that no incident has yet. -/
def respond (r : Relay κ) (counters : Option Counters) (fresh : String) (q : Request) :
    Process κ Answer :=
  match routeOf? counters.isSome q with
  | none => .done (.ok .notFound)
  | some route =>
    if route.methods.contains q.method then
      (serve r (counters.getD []) fresh q route).bind fun a => .done (shorten q.method a)
    else .done (.ok (.notAllowed route.methods))

/-- A method that the route lacks is answered without a call to the outside. -/
theorem respond_of_method (r : Relay κ) (counters : Option Counters) (fresh : String)
    {q : Request} {route : Route} (h : routeOf? counters.isSome q = some route)
    (hm : route.methods.contains q.method = false) :
    respond r counters fresh q = .done (.ok (.notAllowed route.methods)) := by
  simp only [respond, h, hm, Bool.false_eq_true, if_false]

end IncidentRelay.Server
