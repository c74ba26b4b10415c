import IncidentRelay.Http.Exchange

/-!
# Errors of paging
-/

namespace IncidentRelay

/-- Why a page was not accepted. -/
inductive PagingError
  /-- A setting that the paging service needs is empty. -/
  | missingSetting (field : String)
  | http (failure : Http.Failure)
  | status (code : Nat) (body : String)
  /-- The cloud service refused to start an incident. -/
  | cloud (reason : String)
  deriving DecidableEq

/-- The text of a paging error. -/
def PagingError.message : PagingError → String
  | .missingSetting field =>
    "missing " ++ field ++ " configuration for the selected on-call provider"
  | .http failure => "paging request failed: " ++ failure.message
  | .status code body =>
    "paging service returned non-success status " ++ toString code ++ ": " ++ body
  | .cloud reason => "failed to start AWS incident: " ++ reason

end IncidentRelay
