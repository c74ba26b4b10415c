import IncidentRelay.Http.Exchange

/-!
# Errors of notification channels
-/

namespace IncidentRelay

/-- Why a channel did not deliver an incident. -/
inductive ChannelError
  /-- A setting that the channel needs is blank. -/
  | missingSetting (channel field : String)
  /-- The message template could not be read or rendered. -/
  | template (reason : String)
  | http (failure : Http.Failure)
  | status (channel : String) (code : Nat) (body : String)
  /-- The service took the request and refused the message. -/
  | rejected (channel reason : String)
  | email (reason : String)
  deriving DecidableEq

/-- The text of a channel error. -/
def ChannelError.message : ChannelError → String
  | .missingSetting channel field =>
    channel ++ " channel is enabled but `" ++ field ++ "` is not configured"
  | .template reason => "failed to render template: " ++ reason
  | .http failure => "request failed: " ++ failure.message
  | .status channel code body =>
    channel ++ " returned non-success status " ++ toString code ++ ": " ++ body
  | .rejected channel reason => channel ++ " rejected the message: " ++ reason
  | .email reason => "failed to send email: " ++ reason

end IncidentRelay
