import IncidentRelay.Decimal.FloatText
import IncidentRelay.Settings.Basic
import IncidentRelay.Table

/-!
# Overrides of a request

A request can change eight settings for itself through parameters. A parameter that is empty, or
whose value is not acceptable, counts as absent, and so does every parameter of another name. Each
parameter sets one setting of its own, so the order of the parameters does not matter.

## Main statements

* `withOverrides_nil`: without parameters nothing changes.
* `minutesOf?_le`: an accepted window is never longer than the longest one.
-/

namespace IncidentRelay

/-- The parameters of a request by name. -/
abbrev Params := Table String

/-- The parameter under a name, unless it is empty. -/
def Params.given? (params : Params) (name : String) : Option String :=
  (params.get? name).filter (· ≠ "")

/-- The spellings of truth and falsehood in a parameter. -/
def truth? (s : String) : Option Bool :=
  if s ∈ ["1", "t", "T", "TRUE", "true", "True"] then some true
  else if s ∈ ["0", "f", "F", "FALSE", "false", "False"] then some false
  else none

/-- The whole minutes of a window given as a floating-point text. Fractions of a minute are cut
off; a number below zero or beyond the longest window is not acceptable. -/
def minutesOf? (s : String) : Option Nat :=
  match Decimal.float? s with
  | some (.number (.finite x)) =>
    let (num, den) := x.ratio
    if (x.negative ∧ num ≠ 0) ∨ maxWaitMinutes * den < num then none else some (num / den)
  | _ => none

/-- No window that a parameter asks for is longer than the longest one. -/
theorem minutesOf?_le {s : String} {n : Nat} (h : minutesOf? s = some n) : n ≤ maxWaitMinutes := by
  unfold minutesOf? at h
  split at h
  · next x _ =>
    simp only [Option.ite_none_left_eq_some, Option.some.injEq, not_or, Nat.not_lt] at h
    obtain ⟨⟨-, hle⟩, rfl⟩ := h
    exact Nat.div_le_of_le_mul (by rw [Nat.mul_comm]; exact hle)
  · simp at h

namespace Settings

/-- The settings of a request with these parameters. -/
def withOverrides (s : Settings) (params : Params) : Settings :=
  { s with
    alert := { s.alert with
      slack := { s.alert.slack with
        channelId := (params.given? "slack_channel_id").getD s.alert.slack.channelId }
      email := { s.alert.email with
        recipients := (params.given? "email_to").getD s.alert.email.recipients
        subject := (params.given? "email_subject").getD s.alert.email.subject }
      teams := { s.alert.teams with
        url := ((params.given? "msteams_other_power_url").bind fun name =>
          (Table.get? s.alert.teams.otherUrls name).filter (· ≠ "")).getD s.alert.teams.url } }
    onCall := { s.onCall with
      enable := ((params.given? "oncall_enable").bind truth?).getD s.onCall.enable
      waitMinutes :=
        ((params.given? "oncall_wait_minutes").bind minutesOf?).getD s.onCall.waitMinutes
      incidentManager := { s.onCall.incidentManager with
        responsePlan := (params.given? "awsim_response_plan_arn").getD
          s.onCall.incidentManager.responsePlan }
      pagerDuty := { s.onCall.pagerDuty with
        routingKey := (params.given? "pagerduty_routing_key").getD
          s.onCall.pagerDuty.routingKey } } }

theorem withOverrides_nil (s : Settings) : s.withOverrides [] = s := rfl

end Settings

end IncidentRelay
