import IncidentRelay.Escalation.Process

/-!
# Dispatch

An incident goes to a list of channels, one after the other. The first channel that fails ends the
dispatch, and the channels behind it never hear of the incident.

## Main statements

* `dispatch_append`: dispatching to two lists is dispatching to the second once the first took it.
-/

namespace IncidentRelay

/-- The first channel that failed, and why. -/
structure DispatchError where
  channel : String
  cause : ChannelError
  deriving DecidableEq

/-- The text of a dispatch error. -/
def DispatchError.message (e : DispatchError) : String :=
  "failed to send alert via " ++ e.channel ++ ": " ++ e.cause.message

variable {κ : Type}

/-- Sends an incident to channels in order, up to the first that fails. Each attempt is counted
under the channel's name. -/
def dispatch (name : κ → String) (i : Incident) :
    List κ → Process κ (Except DispatchError Unit)
  | [] => .done (.ok ())
  | c :: rest => .call (.send c i) fun
    | .ok () => .call (.count (.sent (name c))) fun _ => dispatch name i rest
    | .error e => .call (.count (.sendFailed (name c))) fun _ => .done (.error ⟨name c, e⟩)

/-- Dispatching to some channels and then to others is one dispatch, unless one of the first
refuses. -/
theorem dispatch_append (name : κ → String) (i : Incident) (front back : List κ) :
    dispatch name i (front ++ back) =
      (dispatch name i front).bind fun
        | .ok () => dispatch name i back
        | .error e => .done (.error e) := by
  induction front with
  | nil => rfl
  | cons c rest ih =>
    simp only [List.cons_append, dispatch, Process.bind]
    congr 1
    funext r
    cases r with
    | error e => rfl
    | ok u => simp only [ih]; rfl

end IncidentRelay
