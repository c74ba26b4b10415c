import IncidentRelay.Proofs.Message.Delivery
import IncidentRelay.Settings.Override

/-!
# Channels under overrides

What the parameters of a request do to channels that could be built from the settings. Three of the
settings that a channel needs can be overridden. A parameter counts as absent only if it is empty,
but a channel also refuses a setting that is blank. So an override either leaves all channels as
they can be built, in their order, or it makes the first channel fail that is given a blank setting.

## Main statements

* `Channel.loadTemplate_of_changed`: what becomes of a template if one needed setting changes.
* `Channel.buildEach_of_rebuild`: what becomes of channels if each of them is built again.
* `buildChannels_withOverrides`: the channels of a request, given those of the settings.
* `blank_override_unbuilt`: a blank parameter makes the channels of a request fail.
-/

namespace IncidentRelay

/-! ### One channel -/

/-- If what was required is there, only a change to a blank value makes a difference. -/
theorem require_of_changed {channel field old : String} {front back : List (String × String)}
    (h : require channel (front ++ (field, old) :: back) = .ok ()) (new : String) :
    require channel (front ++ (field, new) :: back) =
      if Text.allBlank new then .error (.missingSetting channel field) else .ok () := by
  induction front with
  | nil =>
      simp only [List.nil_append, require] at h ⊢
      split at h
      · cases h
      · rw [h]
  | cons first rest ih =>
      simp only [List.cons_append, require] at h ⊢
      split at h
      · cases h
      · next hfirst => rw [if_neg hfirst, ih h]

namespace Channel

variable {files : Files} {channel path field old : String} {html : Bool}
  {front back : List (String × String)}

/-- A template that could be loaded can still be loaded if a needed setting changes, unless the new
one is blank. -/
theorem loadTemplate_of_changed {t : MessageTemplate}
    (h : loadTemplate files channel html path (front ++ (field, old) :: back) = .ok t)
    (new : String) :
    loadTemplate files channel html path (front ++ (field, new) :: back) =
      if Text.allBlank new then .error (.missingSetting channel field) else .ok t := by
  unfold loadTemplate at h ⊢
  rw [List.append_assoc, List.cons_append] at h ⊢
  split at h
  · cases h
  · next hrequired =>
      rw [require_of_changed hrequired new]
      cases Text.allBlank new with
      | true => rfl
      | false => exact h

/-- What a function was mapped over is what it was made of. -/
theorem exists_of_map_eq_ok {ε α β : Type} {r : Except ε α} {f : α → β} {b : β}
    (h : r.map f = .ok b) : ∃ a, r = .ok a ∧ f a = b := by
  cases r with
  | error e => exact nomatch h
  | ok a => exact ⟨a, rfl, Except.ok.inj h⟩

/-! ### All channels -/

/-- A channel that is built twice: as the settings have it, and as an override has it. -/
structure Rebuild where
  enabled : Bool
  before : Except ChannelError Channel
  after : Except ChannelError Channel
  /-- The channel and the setting of it that the override gives a blank value. -/
  blanked : Option (String × String)

/-- A channel that could be built keeps its name, unless a setting of it was made blank. -/
def Rebuild.Sound (b : Rebuild) : Prop :=
  ∀ c, b.before = .ok c →
    match b.blanked with
    | none => ∃ d, b.after = .ok d ∧ d.name = c.name
    | some (channel, field) => b.after = .error (.missingSetting channel field)

/-- The first enabled channel with a setting that was made blank, and the setting. -/
def Rebuild.firstBlanked? (l : List Rebuild) : Option (String × String) :=
  l.findSome? fun b => if b.enabled then b.blanked else none

/-- What has become of channels: they have these names, or a setting is missing that was made
blank. -/
def Rebuilt (names : List String) (blanked : Option (String × String))
    (result : Except ChannelError (List Channel)) : Prop :=
  match blanked with
  | none => ∃ rebuilt, result = .ok rebuilt ∧ rebuilt.map Channel.name = names
  | some (channel, field) => result = .error (.missingSetting channel field)

/-- Another channel in front adds its name, and hides no setting that is missing. -/
theorem Rebuilt.cons {names : List String} {blanked : Option (String × String)}
    {result : Except ChannelError (List Channel)} (h : Rebuilt names blanked result)
    (d : Channel) : Rebuilt (d.name :: names) blanked (result.map (d :: ·)) := by
  cases blanked with
  | none =>
      obtain ⟨rebuilt, rfl, rfl⟩ := h
      exact ⟨d :: rebuilt, rfl, rfl⟩
  | some setting =>
      have hmissing : result = .error (.missingSetting setting.1 setting.2) := h
      rw [hmissing]
      rfl

/-- Channels that could be built keep their names and their order, unless a setting of an enabled
one was made blank; then the first such setting is missing. -/
theorem buildEach_of_rebuild {l : List Rebuild} (hl : ∀ b ∈ l, b.Sound) {channels : List Channel}
    (h : buildEach (l.map fun b => (b.enabled, b.before)) = .ok channels) :
    Rebuilt (channels.map Channel.name) (Rebuild.firstBlanked? l)
      (buildEach (l.map fun b => (b.enabled, b.after))) := by
  induction l generalizing channels with
  | nil =>
      cases h
      exact ⟨[], rfl, rfl⟩
  | cons b rest ih =>
      obtain ⟨hb, hrest⟩ := List.forall_mem_cons.mp hl
      obtain ⟨enabled, before, after, blanked⟩ := b
      cases enabled with
      | false => exact ih hrest h
      | true =>
          cases before with
          | error e => cases h
          | ok c =>
              simp only [List.map_cons, buildEach] at h
              obtain ⟨others, hothers, rfl⟩ := exists_of_map_eq_ok h
              have hc := hb c rfl
              cases blanked with
              | some setting =>
                  have hafter : after = .error (.missingSetting setting.1 setting.2) := hc
                  simp [Rebuilt, Rebuild.firstBlanked?, buildEach, hafter]
              | none =>
                  obtain ⟨d, rfl, hname⟩ : ∃ d, after = .ok d ∧ d.name = c.name := hc
                  rw [List.map_cons, ← hname]
                  exact (ih hrest hothers).cons d

/-- What an override gives a needed setting that is blank. -/
def blankGiven? (channel field : String) (given : Option String) : Option (String × String) :=
  if given.any Text.allBlank then some (channel, field) else none

/-- A channel whose needed setting is overridden. -/
theorem Rebuild.Sound.of_given (enabled : Bool) (front back : List (String × String))
    {f g : MessageTemplate → Channel} (hname : ∀ t, (g t).name = (f t).name)
    (given : Option String) :
    Rebuild.Sound
      ⟨enabled, (loadTemplate files channel html path (front ++ (field, old) :: back)).map f,
        (loadTemplate files channel html path (front ++ (field, given.getD old) :: back)).map g,
        blankGiven? channel field given⟩ := by
  intro c hc
  obtain ⟨t, ht, rfl⟩ := exists_of_map_eq_ok hc
  cases given with
  | none => exact ⟨g t, by rw [Option.getD_none, ht]; rfl, hname t⟩
  | some new =>
      rw [Option.getD_some, loadTemplate_of_changed ht new]
      unfold blankGiven?
      cases hblank : Text.allBlank new with
      | true => simp [hblank, Except.map]
      | false => simp [hblank, Except.map, hname]

/-- A channel that no override changes. -/
theorem Rebuild.Sound.of_same (enabled : Bool) (built : Except ChannelError Channel) :
    Rebuild.Sound ⟨enabled, built, built, none⟩ := fun c hc => ⟨c, hc, rfl⟩

end Channel

/-! ### The channels of a request -/

/-- The address that the parameters of a request name, unless it is empty or unknown. -/
def Settings.namedUrl? (s : Settings) (params : Params) : Option String :=
  (params.given? "msteams_other_power_url").bind fun name =>
    (Table.get? s.alert.teams.otherUrls name).filter (· ≠ "")

/-- The first enabled channel that the parameters of a request give a blank setting, and the
setting. A parameter that is empty gives nothing, and neither does the name of an address that is
empty or unknown. -/
def Settings.blanked? (s : Settings) (params : Params) : Option (String × String) :=
  [(s.alert.slack.enable,
      Channel.blankGiven? "slack" "channel_id" (params.given? "slack_channel_id")),
    (s.alert.email.enable, Channel.blankGiven? "email" "to" (params.given? "email_to")),
    (s.alert.teams.enable,
      Channel.blankGiven? "msteams" "power_automate_url" (s.namedUrl? params))].findSome?
        fun (enabled, blanked) => if enabled then blanked else none

/-- The channels, built from the settings and from those of a request. -/
def Settings.rebuilds (files : Files) (s : Settings) (params : Params) : List Channel.Rebuild :=
  let t := s.withOverrides params
  [⟨s.alert.slack.enable, Channel.buildSlack files s.alert.slack,
      Channel.buildSlack files t.alert.slack,
      Channel.blankGiven? "slack" "channel_id" (params.given? "slack_channel_id")⟩,
    ⟨s.alert.telegram.enable, Channel.buildTelegram files s.alert.telegram,
      Channel.buildTelegram files t.alert.telegram, none⟩,
    ⟨s.alert.email.enable, Channel.buildEmail files s.alert.email,
      Channel.buildEmail files t.alert.email,
      Channel.blankGiven? "email" "to" (params.given? "email_to")⟩,
    ⟨s.alert.teams.enable, Channel.buildTeams files s.alert.teams,
      Channel.buildTeams files t.alert.teams,
      Channel.blankGiven? "msteams" "power_automate_url" (s.namedUrl? params)⟩,
    ⟨s.alert.lark.enable, Channel.buildLark files s.alert.lark,
      Channel.buildLark files t.alert.lark, none⟩]

namespace Settings

variable (files : Files) (s : Settings) (params : Params)

/-- The channels before the overrides are those of the settings. -/
theorem buildEach_before : Channel.buildEach ((s.rebuilds files params).map fun b =>
    (b.enabled, b.before)) = buildChannels files s.alert := rfl

/-- The channels after the overrides are those of the overridden settings. -/
theorem buildEach_after : Channel.buildEach ((s.rebuilds files params).map fun b =>
    (b.enabled, b.after)) = buildChannels files (s.withOverrides params).alert := rfl

/-- Each channel's own account of its overrides is sound. -/
theorem sound_rebuilds : ∀ b ∈ s.rebuilds files params, b.Sound := by
  let t := s.withOverrides params
  have hslack : Channel.Rebuild.Sound ⟨s.alert.slack.enable,
      Channel.buildSlack files s.alert.slack, Channel.buildSlack files t.alert.slack,
      Channel.blankGiven? "slack" "channel_id" (params.given? "slack_channel_id")⟩ :=
    .of_given _ [("token", s.alert.slack.token)] []
      (f := .slack s.alert.slack) (g := .slack t.alert.slack) (fun _ => rfl) _
  have hemail : Channel.Rebuild.Sound ⟨s.alert.email.enable,
      Channel.buildEmail files s.alert.email, Channel.buildEmail files t.alert.email,
      Channel.blankGiven? "email" "to" (params.given? "email_to")⟩ :=
    .of_given _ [("smtp_host", s.alert.email.smtpHost), ("username", s.alert.email.username)] []
      (f := .email s.alert.email) (g := .email t.alert.email) (fun _ => rfl) _
  have hteams : Channel.Rebuild.Sound ⟨s.alert.teams.enable,
      Channel.buildTeams files s.alert.teams, Channel.buildTeams files t.alert.teams,
      Channel.blankGiven? "msteams" "power_automate_url" (s.namedUrl? params)⟩ :=
    .of_given _ [] [] (f := .teams s.alert.teams) (g := .teams t.alert.teams) (fun _ => rfl) _
  unfold rebuilds
  simp only [List.forall_mem_cons]
  exact ⟨hslack, .of_same _ _, hemail, hteams, .of_same _ _, List.forall_mem_nil _⟩

/-- The first channel that is blanked, found from the accounts of all. -/
theorem firstBlanked?_rebuilds :
    Channel.Rebuild.firstBlanked? (s.rebuilds files params) = s.blanked? params := by
  simp only [rebuilds, Channel.Rebuild.firstBlanked?, blanked?, List.findSome?_cons, ite_self,
    List.findSome?_nil]

end Settings

/-- The channels of a request, if those of the settings can be built. They can be built too, with
the same names in the same order, unless a parameter gives an enabled channel a setting that is
blank but not empty. Then the first such setting is missing. -/
theorem buildChannels_withOverrides {files : Files} {s : Settings} {channels : List Channel}
    (h : buildChannels files s.alert = .ok channels) (params : Params) :
    match s.blanked? params with
    | none => ∃ overridden, buildChannels files (s.withOverrides params).alert = .ok overridden ∧
        overridden.map Channel.name = channels.map Channel.name
    | some (channel, field) =>
      buildChannels files (s.withOverrides params).alert =
        .error (.missingSetting channel field) := by
  rw [← s.buildEach_before files params] at h
  have hall := Channel.buildEach_of_rebuild (s.sound_rebuilds files params) h
  rw [s.firstBlanked?_rebuilds files params, s.buildEach_after files params] at hall
  exact hall

/-- Settings with a Slack channel and a Microsoft Teams channel, whose template is the file `m`. -/
def slackAndTeams : Settings where
  alert :=
    { slack := { enable := true, token := "t", channelId := "C1", templatePath := "m" }
      teams := { enable := true, url := "http://day", templatePath := "m",
                 otherUrls := [("blank", " "), ("night", "http://night")] } }

/-- These channels can be built. -/
theorem exists_slackAndTeams :
    ∃ channels, buildChannels [("m", "alert")] slackAndTeams.alert = .ok channels := by
  have hbuilt : (buildChannels [("m", "alert")] slackAndTeams.alert).isOk = true := by
    decide +kernel
  cases h : buildChannels [("m", "alert")] slackAndTeams.alert with
  | ok channels => exact ⟨channels, rfl⟩
  | error e =>
      rw [h] at hbuilt
      cases hbuilt

/-- A channel and an address that are overridden, and an address that is blank. -/
theorem buildChannels_withOverrides_night :
    let night : Params := [("msteams_other_power_url", "night"), ("slack_channel_id", "C2")]
    let blank : Params := [("msteams_other_power_url", "blank")]
    ∃ channels, buildChannels [("m", "alert")] slackAndTeams.alert = .ok channels ∧
      (∃ overridden, buildChannels [("m", "alert")] (slackAndTeams.withOverrides night).alert =
          .ok overridden ∧ overridden.map Channel.name = channels.map Channel.name) ∧
      buildChannels [("m", "alert")] (slackAndTeams.withOverrides blank).alert =
        .error (.missingSetting "msteams" "power_automate_url") := by
  intro night blank
  obtain ⟨channels, h⟩ := exists_slackAndTeams
  have hnight := buildChannels_withOverrides h night
  have hblank := buildChannels_withOverrides h blank
  have hnone : slackAndTeams.blanked? night = none := by decide +kernel
  have hsome : slackAndTeams.blanked? blank = some ("msteams", "power_automate_url") := by
    decide +kernel
  rw [hnone] at hnight
  rw [hsome] at hblank
  exact ⟨channels, h, hnight, hblank⟩

/-- A blank parameter makes the channels of a request fail, although those of the settings can be
built. -/
theorem blank_override_unbuilt :
    (∃ channels, buildChannels [("m", "alert")] slackAndTeams.alert = .ok channels) ∧
      buildChannels [("m", "alert")]
          (slackAndTeams.withOverrides [("slack_channel_id", " ")]).alert =
        .error (.missingSetting "slack" "channel_id") :=
  ⟨exists_slackAndTeams, rfl⟩

end IncidentRelay
