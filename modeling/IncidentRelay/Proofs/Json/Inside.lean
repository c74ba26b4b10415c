import IncidentRelay.Json.Value
import IncidentRelay.Proofs.Tables

/-!
# Looking into values

A value is looked into along a path of names and positions, or searched as a whole.

## Main statements

* `Value.mem_within_of_at?`: a search comes by everything that a path leads to.
-/

namespace IncidentRelay.Json

/-- A step into a value. -/
inductive Key
  | member (name : String)
  | item (position : Nat)

namespace Value

/-- The part of a value under a key. -/
def step? : Value → Key → Option Value
  | .object fields, .member name => Table.get? fields name
  | .array items, .item position => items[position]?
  | _, _ => none

/-- The part of a value at the end of a path. -/
def at? (v : Value) : List Key → Option Value
  | [] => some v
  | key :: path => (v.step? key).bind fun part => part.at? path

mutual

/-- A value and all values inside it. -/
def within : Value → List Value
  | .array items => .array items :: withinItems items
  | .object fields => .object fields :: withinFields fields
  | v => [v]

/-- The items of an array and all values inside them. -/
def withinItems : List Value → List Value
  | [] => []
  | v :: rest => within v ++ withinItems rest

/-- The members of an object and all values inside them. -/
def withinFields : List (String × Value) → List Value
  | [] => []
  | (_, v) :: rest => within v ++ withinFields rest

end

/-- What is inside items is inside one of them. -/
theorem withinItems_eq (items : List Value) : withinItems items = items.flatMap within := by
  induction items with
  | nil => rfl
  | cons v rest ih => rw [withinItems, ih, List.flatMap_cons]

/-- What is inside members is inside the value of one of them. -/
theorem withinFields_eq (fields : List (String × Value)) :
    withinFields fields = fields.flatMap fun f => within f.2 := by
  induction fields with
  | nil => rfl
  | cons f rest ih => rw [withinFields, ih, List.flatMap_cons]

/-- A value is inside itself. -/
theorem self_mem_within (v : Value) : v ∈ v.within := by
  cases v <;> simp [within]

/-- What is inside a part is inside the whole. -/
theorem within_subset_of_step? {v part : Value} {key : Key} (h : v.step? key = some part) :
    part.within ⊆ v.within := by
  intro inner hinner
  unfold step? at h
  split at h
  · rw [within, withinFields_eq]
    exact List.mem_cons_of_mem _ (List.mem_flatMap.mpr ⟨_, Table.mem_of_get? h, hinner⟩)
  · rw [within, withinItems_eq]
    exact List.mem_cons_of_mem _
      (List.mem_flatMap.mpr ⟨_, List.mem_of_getElem? h, hinner⟩)
  · exact nomatch h

/-- What a path leads to is inside the value. -/
theorem mem_within_of_at? {v part : Value} {path : List Key} (h : v.at? path = some part) :
    part ∈ v.within := by
  induction path generalizing v with
  | nil =>
      cases h
      exact self_mem_within _
  | cons key path ih =>
      obtain ⟨inner, hstep, hpath⟩ := Option.bind_eq_some_iff.mp h
      exact within_subset_of_step? hstep (ih hpath)

end Value

end IncidentRelay.Json
