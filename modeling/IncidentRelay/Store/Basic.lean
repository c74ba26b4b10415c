/-!
# The escalation store

The store records which incidents still wait for an acknowledgment: one marker per incident, each
with a time to live. This module holds what every backend shares, the errors of its operations.
-/

namespace IncidentRelay

/-- Why a store operation failed. -/
inductive StoreError
  /-- The service behind the store cannot be reached. -/
  | unavailable (reason : String)
  /-- The service refused the operation on a key. -/
  | operation (key reason : String)
  deriving DecidableEq

/-- The text of a store error. -/
def StoreError.message : StoreError → String
  | .unavailable reason => "escalation store unavailable: " ++ reason
  | .operation key reason => "escalation store operation on " ++ key ++ " failed: " ++ reason

/-- The marker of a pending incident. Only its presence counts. -/
def pendingMarker : String := "pending"

end IncidentRelay
