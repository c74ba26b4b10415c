import IncidentRelay.Json.Value

/-!
# Layers of settings

Documents that are laid one over the other. Where both have an object under a name the objects are
laid over each other in turn; anywhere else the upper layer's value replaces the lower one, and a
name that the upper layer does not mention keeps its value.

## Main statements

* `merge_of_not_object`: a value that is no object replaces whatever lies below.
* `mergeFields_nil`: an empty object changes nothing.
-/

namespace IncidentRelay.Settings.Layer

open Json (Fields Value)

mutual

/-- Lays the second document over the first. -/
def merge (base : Value) : Value → Value
  | .object upper =>
    match base with
    | .object lower => .object (mergeFields lower upper)
    | _ => .object upper
  | v => v

/-- Lays the members of the second object over those of the first. -/
def mergeFields (lower : Fields) : List (String × Value) → Fields
  | [] => lower
  | (k, v) :: rest =>
    let value := match lower.get? k with
      | some old => merge old v
      | none => v
    mergeFields (lower.insert k value) rest

end

/-- What is no object replaces what it is laid over. -/
theorem merge_of_not_object (base v : Value) (h : v.asObject? = none) : merge base v = v := by
  cases v with
  | object fs => simp [Value.asObject?] at h
  | _ => simp [merge]

theorem mergeFields_nil (lower : Fields) : mergeFields lower [] = lower := by simp [mergeFields]

end IncidentRelay.Settings.Layer
