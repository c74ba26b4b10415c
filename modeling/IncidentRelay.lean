import IncidentRelay.Drill.Program
import IncidentRelay.Drill.Redis
import IncidentRelay.Drill.Site
import IncidentRelay.Drill.TemplateFile
import IncidentRelay.Main
import IncidentRelay.Template.Shipped
import IncidentRelay.Proofs.Alert.Course
import IncidentRelay.Proofs.Alert.Status
import IncidentRelay.Proofs.Interleaving.SingleWinner
import IncidentRelay.Proofs.Interleaving.DeliveredLink
import IncidentRelay.Proofs.Schedule.Reuse
import IncidentRelay.Proofs.Schedule.Separation
import IncidentRelay.Proofs.Restart.Survival
import IncidentRelay.Proofs.Accounts
import IncidentRelay.Proofs.Alert.FollowedLink
import IncidentRelay.Proofs.StoreRefinement
import IncidentRelay.Proofs.Message.Parts
import IncidentRelay.Proofs.Message.Shipped
import IncidentRelay.Proofs.Message.Delivery
import IncidentRelay.Proofs.Settings.Document
import IncidentRelay.Proofs.Settings.TomlTidy
import IncidentRelay.Proofs.Settings.EnvironmentLayer
import IncidentRelay.Proofs.Settings.Section
import IncidentRelay.Proofs.Settings.Lawful
import IncidentRelay.Proofs.Settings.CommandLineLayer
import IncidentRelay.Proofs.Settings.Layers
import IncidentRelay.Proofs.Settings.EnvironmentText
import IncidentRelay.Proofs.Settings.Variable
import IncidentRelay.Proofs.Paging.Attempts
import IncidentRelay.Proofs.Paging.Pages
import IncidentRelay.Proofs.Paging.Unanswered
import IncidentRelay.Proofs.Paging.OwnTarget
import IncidentRelay.Proofs.Settings.WindowRange
import IncidentRelay.Proofs.Message.ChannelSetup
import IncidentRelay.Proofs.MemoryHistory
import IncidentRelay.Proofs.Settings.Overrides
import IncidentRelay.Proofs.Message.Markup
import IncidentRelay.Proofs.Message.FreshFile
import IncidentRelay.Proofs.Decimal.Nearest
import IncidentRelay.Proofs.Decimal.PlainNumeral
import IncidentRelay.Proofs.Settings.WindowNumeral
import IncidentRelay.Proofs.FailFast
import IncidentRelay.Proofs.Json.Inside
import IncidentRelay.Proofs.Message.SlackButton
import IncidentRelay.Proofs.Message.PostText
import IncidentRelay.Proofs.Message.Recipients
import IncidentRelay.Proofs.MetricsPage
import IncidentRelay.Proofs.Inert
import IncidentRelay.Proofs.Rejection
