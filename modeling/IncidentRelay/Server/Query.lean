import IncidentRelay.Settings.Override
import IncidentRelay.Text.Lines
import IncidentRelay.Text.Percent

/-!
# Query parameters

A query is a row of assignments between ampersands. A plus sign stands for a blank, other
characters can be percent coded, and bytes that are no text show as replacement characters. Of two
assignments to one name the later counts.
-/

namespace IncidentRelay

/-- The text that a part of a query stands for. -/
def queryText (cs : List Char) : String :=
  String.ofList (Text.Utf8.decodeLossy
    (Text.percentDecode (cs.map fun c => if c = '+' then ' ' else c)))

/-- One assignment: a name, and a value behind the first equals sign. -/
def queryAssignment (cs : List Char) : String × String :=
  match Text.cut? '=' cs with
  | some (name, value) => (queryText name, queryText value)
  | none => (queryText cs, "")

/-- The parameters of a query. -/
def Params.ofQuery (cs : List Char) : Params :=
  Table.ofList (((Text.segments '&' cs).filter (· ≠ [])).map queryAssignment)

end IncidentRelay
