import IncidentRelay.Files
import IncidentRelay.Template.Basic

/-!
# Templates that come with the service

One template for each channel. All show a title, and then the message, the severity and the
acknowledgment link as far as they are there.
-/

namespace IncidentRelay.Template.Shipped

/-- A tag in its braces. -/
def tag (inner : String) : String := "\x7b\x7b" ++ inner ++ "\x7d\x7d"

/-- The template for Slack: chat markup with the severity as code and a link in angle brackets. -/
def slack : String :=
  "*" ++ tag "default title \"Incident\"" ++ "*\n"
    ++ tag "#if message" ++ tag "message" ++ "\n"
    ++ tag "/if" ++ tag "#if severity" ++ "Severity: `" ++ tag "upper severity" ++ "`\n"
    ++ tag "/if" ++ tag "#if AckURL" ++ "<" ++ tag "AckURL" ++ "|Acknowledge>\n"
    ++ tag "/if" ++ "\n"

/-- The template for Telegram: a small HTML of its own. -/
def telegram : String :=
  "<b>" ++ tag "default title \"Incident\"" ++ "</b>\n"
    ++ tag "#if message" ++ tag "message" ++ "\n"
    ++ tag "/if" ++ tag "#if severity" ++ "Severity: <code>" ++ tag "upper severity"
    ++ "</code>\n"
    ++ tag "/if" ++ tag "#if AckURL" ++ "<a href=\"" ++ tag "AckURL" ++ "\">Acknowledge</a>\n"
    ++ tag "/if" ++ "\n"

/-- The template for email: HTML, with the whole content as JSON at the end. -/
def email : String :=
  "<h2>" ++ tag "default title \"Incident\"" ++ "</h2>\n"
    ++ tag "#if message" ++ "<p>" ++ tag "message" ++ "</p>" ++ tag "/if" ++ "\n"
    ++ tag "#if severity" ++ "<p>Severity: <strong>" ++ tag "upper severity" ++ "</strong></p>"
    ++ tag "/if" ++ "\n"
    ++ tag "#if AckURL" ++ "<p><a href=\"" ++ tag "AckURL"
    ++ "\">Acknowledge this incident</a></p>" ++ tag "/if" ++ "\n"
    ++ "<pre>" ++ tag "json this" ++ "</pre>\n"

/-- The template for Microsoft Teams: Markdown. -/
def msteams : String :=
  "**" ++ tag "default title \"Incident\"" ++ "**\n"
    ++ tag "#if message" ++ tag "message" ++ "\n"
    ++ tag "/if" ++ tag "#if severity" ++ "Severity: " ++ tag "upper severity" ++ "\n"
    ++ tag "/if" ++ tag "#if AckURL" ++ "[Acknowledge](" ++ tag "AckURL" ++ ")\n"
    ++ tag "/if" ++ "\n"

/-- The template for Lark: Markdown with a heading, which becomes the title of the post. -/
def lark : String :=
  "# " ++ tag "default title \"Incident\"" ++ "\n"
    ++ tag "#if message" ++ tag "message" ++ "\n"
    ++ tag "/if" ++ tag "#if severity" ++ "Severity: " ++ tag "upper severity" ++ "\n"
    ++ tag "/if" ++ tag "#if AckURL" ++ "Acknowledge: " ++ tag "AckURL" ++ "\n"
    ++ tag "/if" ++ "\n"

/-- The files that the service comes with. -/
def files : Files :=
  [("templates/email.hbs", email), ("templates/lark.hbs", lark),
    ("templates/msteams.hbs", msteams), ("templates/slack.hbs", slack),
    ("templates/telegram.hbs", telegram)]

/-- The template of a channel by the channel's name. -/
def text? (channel : String) : Option String := Table.get? files ("templates/" ++ channel ++ ".hbs")

end IncidentRelay.Template.Shipped
