import IncidentRelay.Http.Address
import IncidentRelay.Json.Value

/-!
# Requests to other services

What the service sends over HTTP and what comes of it: a reply, or a connection that is closed
without one. Of a reply only the status, the body and the error that a header names are ever looked
at.
-/

namespace IncidentRelay.Http

open Json (Value)

/-- A request with a JSON body. Its address has to be given in normal form. -/
structure Request where
  address : Address
  /-- The value of the `Authorization` header. -/
  authorization : Option String := none
  body : Value

/-- The answer to a request. -/
structure Reply where
  status : Nat := 200
  body : String := "\x7b\"ok\":true\x7d"
  /-- The error that a header of the reply names. -/
  errorType : Option String := none

/-- What comes of a request. -/
inductive Outcome
  | reply (r : Reply)
  /-- The connection was closed without a reply. -/
  | dropped

/-- Whether a status reports success. -/
def isSuccess (status : Nat) : Bool := 200 ≤ status && status < 300

/-- Why a request came to nothing. -/
inductive Failure
  /-- The address or a header of the request is malformed. -/
  | malformed
  /-- The address has a scheme other than the web's. -/
  | foreignScheme (url : String)
  /-- The connection failed before a reply came. -/
  | noReply (url : String)
  /-- The body of the reply is not of the expected shape. -/
  | unreadable
  deriving DecidableEq

/-- The text of a failure. -/
def Failure.message : Failure → String
  | .malformed => "builder error"
  | .foreignScheme url => "builder error for url (" ++ url ++ ")"
  | .noReply url => "error sending request for url (" ++ url ++ ")"
  | .unreadable => "error decoding response body"

/-- Whether a text can stand in a header. -/
def isHeaderText (s : String) : Bool :=
  s.toList.all fun c => (32 ≤ c.toNat || c == '\t') && c.toNat != 127

/-- A request that posts a body to an address. Credentials in the address come before a header of
the request's own. -/
def Request.post (url : String) (authorization : Option String) (body : Value) :
    Except Failure Request :=
  match Address.read url with
  | .error .malformed => .error .malformed
  | .error (.foreignScheme text) => .error (.foreignScheme text)
  | .ok address =>
    if authorization.any fun h => !isHeaderText h then .error .malformed
    else .ok { address, authorization := address.authorization.or authorization, body }

end IncidentRelay.Http
