import IncidentRelay.Http.Exchange
import IncidentRelay.Mail.Submission

/-!
# The wire

What channels and pagers need of the world: the exchange of a request for a reply, and the
submission of a mail. Whoever runs them says what these do to the state of the world.
-/

namespace IncidentRelay

/-- The services behind the wire, for states in `σ`. -/
structure Wire (σ : Type) where
  /-- Sends a request and waits for what comes of it. -/
  exchange : Http.Request → σ → Http.Outcome × σ
  /-- Submits a mail. -/
  submit : Mail.Session → σ → Except Mail.SubmissionError Unit × σ

end IncidentRelay
