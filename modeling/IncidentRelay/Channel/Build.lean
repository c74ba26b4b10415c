import IncidentRelay.Channel.Basic

/-!
# Building channels

The channels that are enabled, in a fixed order. A channel needs its settings not to be blank and
its template file to compile, and the first one that cannot be built fails them all.
-/

namespace IncidentRelay

/-- Requires settings not to be blank, in order. -/
def require (channel : String) : List (String × String) → Except ChannelError Unit
  | [] => .ok ()
  | (field, value) :: rest =>
    if Text.allBlank value then .error (.missingSetting channel field) else require channel rest

namespace Channel

/-- The template of a channel, once the settings that it needs are there. -/
def loadTemplate (files : Files) (channel : String) (html : Bool) (path : String)
    (needed : List (String × String)) : Except ChannelError MessageTemplate :=
  match require channel (needed ++ [("template_path", path)]) with
  | .error e => .error e
  | .ok () => orFail templateFailed (MessageTemplate.load files html path)

/-- The Slack channel. -/
def buildSlack (files : Files) (s : Settings.Slack) : Except ChannelError Channel :=
  (loadTemplate files "slack" false s.templatePath
    [("token", s.token), ("channel_id", s.channelId)]).map (.slack s)

/-- The Telegram channel, whose messages are HTML. -/
def buildTelegram (files : Files) (s : Settings.Telegram) : Except ChannelError Channel :=
  (loadTemplate files "telegram" true s.templatePath
    [("bot_token", s.botToken), ("chat_id", s.chatId)]).map (.telegram s)

/-- The email channel, whose messages are HTML. -/
def buildEmail (files : Files) (s : Settings.Email) : Except ChannelError Channel :=
  (loadTemplate files "email" true s.templatePath
    [("smtp_host", s.smtpHost), ("username", s.username), ("to", s.recipients)]).map (.email s)

/-- The Microsoft Teams channel. -/
def buildTeams (files : Files) (s : Settings.Teams) : Except ChannelError Channel :=
  (loadTemplate files "msteams" false s.templatePath [("power_automate_url", s.url)]).map (.teams s)

/-- The Lark channel. -/
def buildLark (files : Files) (s : Settings.Lark) : Except ChannelError Channel :=
  (loadTemplate files "lark" false s.templatePath [("webhook_url", s.webhookUrl)]).map (.lark s)

/-- The channels of builders that apply, in order. -/
def buildEach : List (Bool × Except ChannelError Channel) → Except ChannelError (List Channel)
  | [] => .ok []
  | (false, _) :: rest => buildEach rest
  | (true, .error e) :: _ => .error e
  | (true, .ok c) :: rest => (buildEach rest).map (c :: ·)

end Channel

/-- The enabled channels. -/
def buildChannels (files : Files) (alert : Settings.Alert) : Except ChannelError (List Channel) :=
  Channel.buildEach
    [(alert.slack.enable, Channel.buildSlack files alert.slack),
      (alert.telegram.enable, Channel.buildTelegram files alert.telegram),
      (alert.email.enable, Channel.buildEmail files alert.email),
      (alert.teams.enable, Channel.buildTeams files alert.teams),
      (alert.lark.enable, Channel.buildLark files alert.lark)]

end IncidentRelay
