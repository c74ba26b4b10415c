import IncidentRelay.Proofs.Tables
import IncidentRelay.Relay

/-!
# The algebra of overrides

Eight settings can be changed by the parameters of a request, each by one of its own, and none of
them decides what another parameter means. So the settings of a request are those of the service
with eight values laid over them, and it does not matter in which order parameters are applied, how
often, and in how many portions.

## Main statements

* `Settings.withOverrides_eq`: overrides lay eight values over the settings.
* `Settings.withOverrides_withOverrides`: applying parameters one after the other.
* `Settings.overrides_algebra`: order, portions, repetition, and what has no effect.
-/

namespace IncidentRelay

namespace Settings

/-! ### The settings that can be overridden -/

/-- A setting that a request can change for itself. -/
inductive Overridable
  | slackChannel
  | recipients
  | subject
  | teamsUrl
  | enable
  | window
  | responsePlan
  | routingKey
  deriving DecidableEq

namespace Overridable

/-- What a setting consists of. -/
def Value : Overridable → Type
  | enable => Bool
  | window => Nat
  | slackChannel | recipients | subject | teamsUrl | responsePlan | routingKey => String

/-- The parameter that changes a setting. -/
def parameter : Overridable → String
  | slackChannel => "slack_channel_id"
  | recipients => "email_to"
  | subject => "email_subject"
  | teamsUrl => "msteams_other_power_url"
  | enable => "oncall_enable"
  | window => "oncall_wait_minutes"
  | responsePlan => "awsim_response_plan_arn"
  | routingKey => "pagerduty_routing_key"

/-- What a setting is at present. -/
def current (s : Settings) : (o : Overridable) → o.Value
  | slackChannel => s.alert.slack.channelId
  | recipients => s.alert.email.recipients
  | subject => s.alert.email.subject
  | teamsUrl => s.alert.teams.url
  | enable => s.onCall.enable
  | window => s.onCall.waitMinutes
  | responsePlan => s.onCall.incidentManager.responsePlan
  | routingKey => s.onCall.pagerDuty.routingKey

/-- The value that a text stands for, if it is acceptable. An address of Teams is given by the name
that the settings have for it. -/
def read? (s : Settings) : (o : Overridable) → String → Option o.Value
  | teamsUrl, name => ((Table.get? s.alert.teams.otherUrls name).filter (· ≠ "") : Option String)
  | enable, text => truth? text
  | window, text => minutesOf? text
  | slackChannel, text | recipients, text | subject, text | responsePlan, text
  | routingKey, text => some text

end Overridable

open Overridable (current read?)

/-- The settings with other values for all that can be overridden. -/
def overridden (s : Settings) (v : (o : Overridable) → o.Value) : Settings :=
  { s with
    alert := { s.alert with
      slack := { s.alert.slack with channelId := v .slackChannel }
      email := { s.alert.email with recipients := v .recipients, subject := v .subject }
      teams := { s.alert.teams with url := v .teamsUrl } }
    onCall := { s.onCall with
      enable := v .enable
      waitMinutes := v .window
      incidentManager := { s.onCall.incidentManager with responsePlan := v .responsePlan }
      pagerDuty := { s.onCall.pagerDuty with routingKey := v .routingKey } } }

variable (s : Settings) (p q : Params) (v w : (o : Overridable) → o.Value)

@[simp] theorem current_overridden (o : Overridable) : current (s.overridden v) o = v o := by
  cases o <;> rfl

@[simp] theorem overridden_current : s.overridden (current s) = s := rfl

@[simp] theorem overridden_overridden : (s.overridden v).overridden w = s.overridden w := rfl

/-- What a text stands for is not up to the settings that can be overridden. -/
@[simp] theorem read?_overridden (o : Overridable) : read? (s.overridden v) o = read? s o := by
  cases o <;> rfl

/-! ### What parameters ask for -/

/-- The value that parameters ask for. -/
def asked? (o : Overridable) : Option o.Value := (p.given? o.parameter).bind (read? s o)

/-- Parameters ask for a value: their own parameter of the setting is there, is not empty, and
stands for the value. -/
def Asks (o : Overridable) (value : o.Value) : Prop :=
  ∃ text, p.get? o.parameter = some text ∧ text ≠ "" ∧ read? s o text = some value

variable {s p q}

/-- What is asked for, read off the parameter and what it stands for. -/
theorem asked?_eq_some_iff {o : Overridable} {value : o.Value} :
    asked? s p o = some value ↔ Asks s p o value := by
  simp [asked?, Asks, Params.given?, Option.bind_eq_some_iff, Option.filter_eq_some_iff, and_assoc]

/-- Without its parameter nothing is asked for. -/
theorem asked?_of_absent {o : Overridable} (h : p.get? o.parameter = none) :
    asked? s p o = none := by
  simp [asked?, Params.given?, h]

/-- What is asked for under a name is up to that name alone. -/
theorem asked?_congr {o : Overridable} (h : p.get? o.parameter = q.get? o.parameter) :
    asked? s p o = asked? s q o := by
  simp [asked?, Params.given?, h]

variable (s p q)

@[simp] theorem asked?_overridden (o : Overridable) :
    asked? (s.overridden v) p o = asked? s p o := by
  simp [asked?]

/-- Overrides lay over the settings what the parameters ask for. -/
theorem withOverrides_eq :
    s.withOverrides p = s.overridden fun o => (asked? s p o).getD (current s o) := by
  have hcurrent (o : Overridable) :
      current (s.withOverrides p) o = (asked? s p o).getD (current s o) := by
    cases o with
    | teamsUrl | enable | window => rfl
    | slackChannel | recipients | subject | responsePlan | routingKey =>
        exact congrArg (Option.getD · _) (Option.bind_fun_some _).symm
  calc s.withOverrides p = s.overridden (current (s.withOverrides p)) := rfl
    _ = _ := congrArg s.overridden (funext hcurrent)

/-- An override gives what is asked for, and leaves the rest. -/
theorem current_withOverrides (o : Overridable) :
    current (s.withOverrides p) o = (asked? s p o).getD (current s o) := by
  rw [withOverrides_eq, current_overridden]

/-- Of two applications the later decides where both ask for something. -/
theorem withOverrides_withOverrides :
    (s.withOverrides p).withOverrides q =
      s.overridden fun o => ((asked? s q o).or (asked? s p o)).getD (current s o) := by
  simp only [withOverrides_eq, asked?_overridden, current_overridden, overridden_overridden,
    Option.getD_or]

variable {s p q}

/-- Parameters that ask for the same give the same settings. -/
theorem withOverrides_congr (h : ∀ o, asked? s p o = asked? s q o) :
    s.withOverrides p = s.withOverrides q := by
  simp only [withOverrides_eq, h]

/-- Parameters without a common name can be applied one after the other or at once. -/
theorem withOverrides_union (h : Table.Apart p q) :
    (s.withOverrides p).withOverrides q = s.withOverrides (Table.union p q) ∧
      (s.withOverrides q).withOverrides p = s.withOverrides (Table.union p q) := by
  have hasked (o : Overridable) :
      asked? s (Table.union p q) o = (asked? s q o).or (asked? s p o) ∧
        asked? s (Table.union p q) o = (asked? s p o).or (asked? s q o) := by
    have hunion := Table.get?_union p q o.parameter
    rcases h.get?_eq_none o.parameter with hp | hq
    · rw [hp, Option.none_or] at hunion
      simp [asked?_congr hunion, asked?_of_absent hp]
    · rw [hq, Option.or_none] at hunion
      simp [asked?_congr hunion, asked?_of_absent hq]
  rw [withOverrides_withOverrides, withOverrides_withOverrides, withOverrides_eq]
  constructor
  · exact congrArg s.overridden (funext fun o => by rw [(hasked o).1])
  · exact congrArg s.overridden (funext fun o => by rw [(hasked o).2])

/-- A parameter that asks for nothing can be left out. -/
theorem withOverrides_filter {keep : String → Bool}
    (h : ∀ o value, Asks s p o value → keep o.parameter = true) :
    s.withOverrides (p.filter fun e => keep e.1) = s.withOverrides p := by
  refine withOverrides_congr fun o => ?_
  cases hkeep : keep o.parameter with
  | true => exact asked?_congr (Table.get?_filter hkeep p)
  | false =>
      have hnothing : asked? s p o = none := by
        refine Option.eq_none_iff_forall_ne_some.mpr fun value hvalue => ?_
        exact absurd (h o value (asked?_eq_some_iff.mp hvalue)) (by simp [hkeep])
      rw [hnothing]
      exact asked?_of_absent (Table.get?_filter_of_not hkeep p)

/-- The order of parameters makes no difference, nor do portions or repetitions. Nothing but the
eight settings changes, and these only for a parameter of their own that asks for something; any
other parameter can be left out. -/
theorem overrides_algebra (s : Settings) (p q : Params) :
    (Table.Apart p q →
      (s.withOverrides p).withOverrides q = s.withOverrides (Table.union p q) ∧
        (s.withOverrides q).withOverrides p = s.withOverrides (Table.union p q)) ∧
      (s.withOverrides p).withOverrides p = s.withOverrides p ∧
      (s.withOverrides p).overridden (current s) = s ∧
      (∀ o value, Asks s p o value → current (s.withOverrides p) o = value) ∧
      (∀ o, current (s.withOverrides p) o ≠ current s o → ∃ value, Asks s p o value) ∧
      (∀ keep : String → Bool, (∀ o value, Asks s p o value → keep o.parameter = true) →
        s.withOverrides (p.filter fun e => keep e.1) = s.withOverrides p) ∧
      ∀ {κ : Type} (r : Relay κ), r.settingsFor p = r.settings.withOverrides p := by
  refine ⟨withOverrides_union, ?_, ?_, ?_, ?_, fun _ => withOverrides_filter, ?_⟩
  · rw [withOverrides_withOverrides, withOverrides_eq]
    simp only [Option.or_self]
  · rw [withOverrides_eq, overridden_overridden, overridden_current]
  · intro o value hasks
    rw [current_withOverrides, asked?_eq_some_iff.mpr hasks, Option.getD_some]
  · intro o hchanged
    refine Option.ne_none_iff_exists'.mp ?_ |>.imp fun value => asked?_eq_some_iff.mp
    intro hnothing
    rw [current_withOverrides, hnothing] at hchanged
    exact hchanged rfl
  · exact fun r => r.settingsFor_eq p

/-- A named address and a fraction of a minute are set in any order with a recipient, and a
parameter that does not say whether to escalate is left out. -/
theorem overrides_algebra_named :
    let s : Settings := { alert.teams.otherUrls := [("ops", "http://ops")] }
    let p : Params := [("msteams_other_power_url", "ops"), ("oncall_wait_minutes", "3.9")]
    let q : Params := [("email_to", "night@example.com"), ("oncall_enable", "maybe")]
    (s.withOverrides p).withOverrides q = s.withOverrides (Table.union p q) ∧
      (s.withOverrides p).alert.teams.url = "http://ops" ∧
      (s.withOverrides p).onCall.waitMinutes = 3 ∧
      s.withOverrides (q.filter fun e => e.1 ≠ "oncall_enable") = s.withOverrides q := by
  intro s p q
  obtain ⟨hunion, -, -, hasks, -⟩ := overrides_algebra s p q
  obtain ⟨-, -, -, -, -, hfilter, -⟩ := overrides_algebra s q p
  have hapart : Table.Apart p q := by decide
  have hurl : Asks s p .teamsUrl "http://ops" := ⟨"ops", rfl, by decide, rfl⟩
  have hminutes : minutesOf? "3.9" = some 3 := by decide +kernel
  have hwindow : Asks s p .window (3 : Nat) := ⟨"3.9", rfl, by decide, hminutes⟩
  have hmaybe : truth? "maybe" = none := by decide
  refine ⟨(hunion hapart).1, hasks _ _ hurl, hasks _ _ hwindow, ?_⟩
  simpa using hfilter (· ≠ "oncall_enable") fun o value hvalue => by
    cases o with
    | enable =>
        obtain ⟨text, htext, -, htruth⟩ := hvalue
        obtain rfl : "maybe" = text := Option.some.inj htext
        exact absurd (hmaybe.symm.trans htruth) nofun
    | slackChannel | recipients | subject | teamsUrl | window | responsePlan | routingKey => rfl

end Settings

end IncidentRelay
