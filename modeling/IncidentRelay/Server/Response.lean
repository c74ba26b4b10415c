import IncidentRelay.Json.Value

/-!
# Responses

What the service answers to a request. A response to a request for the head alone keeps everything
but its body.

## Main statements

* `Response.withoutBody_status`: the head of a response has its status.
-/

namespace IncidentRelay.Server

open Json (Value)

/-- What a response carries. -/
inductive Body
  | nothing
  | text (s : String)
  | json (v : Value)
  deriving DecidableEq

/-- The type of a body. -/
inductive ContentType
  | text
  | json
  deriving DecidableEq

/-- A type as a response names it. -/
def ContentType.name : ContentType → String
  | .text => "text/plain; charset=utf-8"
  | .json => "application/json"

/-- A response. -/
structure Response where
  status : Nat
  contentType : Option ContentType := none
  body : Body := .nothing
  /-- The methods that the route has, if it lacks the one of the request. -/
  allow : List String := []
  deriving DecidableEq

namespace Response

/-- A response with a text. -/
def text (status : Nat) (s : String) : Response :=
  { status, contentType := some .text, body := .text s }

/-- A response with a JSON object. -/
def json (status : Nat) (members : List (String × Value)) : Response :=
  { status, contentType := some .json, body := .json (.object members) }

/-- A response that reports an error. -/
def error (status : Nat) (message : String) : Response :=
  json status [("error", .string message)]

/-- The response to a path that leads nowhere. -/
def notFound : Response := { status := 404 }

/-- The response to a method that the route lacks. -/
def notAllowed (allow : List String) : Response := { status := 405, allow }

/-- The head of a response. -/
def withoutBody (r : Response) : Response := { r with body := .nothing }

theorem withoutBody_status (r : Response) : r.withoutBody.status = r.status := rfl

end Response

end IncidentRelay.Server
