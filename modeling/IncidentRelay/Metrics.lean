import IncidentRelay.Counters

/-!
# The page on metrics

The counters as text: for every family of series a line that says what it counts, one that gives
its type, and a line for each series.
-/

namespace IncidentRelay

/-- A family of series. -/
inductive Family
  | received
  | sent
  | sendFailed
  | paged
  | pageFailed
  | acknowledgments
  deriving DecidableEq

namespace Family

/-- All families, in the order of the page. -/
def all : List Family := [.received, .sent, .sendFailed, .paged, .pageFailed, .acknowledgments]

/-- The family of an event. -/
def of : Event → Family
  | .received => .received
  | .sent _ => .sent
  | .sendFailed _ => .sendFailed
  | .paged _ => .paged
  | .pageFailed _ => .pageFailed
  | .acknowledged | .notFound => .acknowledgments

/-- The name of a family. -/
def name : Family → String
  | .received => "incidents_received_total"
  | .sent => "notifications_sent_total"
  | .sendFailed => "notifications_failed_total"
  | .paged => "escalations_total"
  | .pageFailed => "escalation_failures_total"
  | .acknowledgments => "acknowledgements_total"

/-- What a family counts. -/
def description : Family → String
  | .received => "Total number of incidents received over HTTP."
  | .sent => "Total number of notifications delivered, labeled by channel."
  | .sendFailed => "Total number of failed notification deliveries, labeled by channel."
  | .paged => "Total number of pages sent, labeled by path (immediate or deferred)."
  | .pageFailed => "Total number of failed pages, labeled by path."
  | .acknowledgments => "Total number of acknowledgment attempts, labeled by outcome."

end Family

/-- The lines of one family, none if nothing of it was counted. -/
def Counters.familyLines (c : Counters) (f : Family) : List String :=
  let own := c.filter fun x => Family.of x.1 == f
  if own.isEmpty then []
  else
    ["# HELP " ++ f.name ++ " " ++ f.description, "# TYPE " ++ f.name ++ " counter"]
      ++ own.map fun (e, n) => e.series ++ " " ++ toString n

/-- The lines of the page. -/
def Counters.lines (c : Counters) : List String := Family.all.flatMap c.familyLines

/-- The page. -/
def Counters.page (c : Counters) : String := String.join (c.lines.map (· ++ "\n"))

/-- Whether a service with these settings has a page on metrics: if it is asked for and no other
part of the process counts already. -/
def metricsInstalled (enabled taken : Bool) : Bool := enabled && !taken

end IncidentRelay
