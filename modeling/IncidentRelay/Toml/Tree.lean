import IncidentRelay.Json.Value

/-!
# The tables of a TOML document

A document under construction. A table remembers how it came to be, because that decides who may
still add to it: a header defines a table once and may come after the headers of its subtables, a
dotted key adds only to tables that dotted keys made, and values, inline tables among them, are
closed.
-/

namespace IncidentRelay.Toml

open Json (Value)

/-- How a table came to be. -/
inductive Origin
  /-- On the way to the table of a header. -/
  | implied
  /-- By a header of its own. -/
  | header
  /-- On the way of a dotted key. -/
  | dotted
  deriving DecidableEq

/-- What stands under a key. -/
inductive Node
  | value (v : Value)
  | table (origin : Origin) (entries : List (String × Node))
  /-- The tables of headers in double brackets, the first one first. -/
  | tables (items : List (List (String × Node)))

/-- The entries of a table. -/
abbrev Tree := Table Node

namespace Tree

/-- Sets a key that a dotted key may set, at the end of a path of tables. `open_` tells whether
the table at the end may be added to. -/
def assign : (path : List String) → (key : String) → Value → (open_ : Bool) → Tree → Option Tree
  | [], key, v, open_, t =>
    if open_ ∧ (Table.get? t key).isNone then some (Table.insert t key (.value v)) else none
  | k :: path, key, v, _, t =>
    match Table.get? t k with
    | none => (assign path key v true []).map fun sub => Table.insert t k (.table .dotted sub)
    | some (.table origin sub) =>
      if origin = .header then none
      else (assign path key v (origin = .dotted) sub).map fun sub =>
        Table.insert t k (.table origin sub)
    | some (.tables items) =>
      match items.getLast? with
      | none => none
      | some last => (assign path key v false last).map fun last =>
        Table.insert t k (.tables (items.dropLast ++ [last]))
    | some (.value _) => none

/-- Does something in the table that a header's path leads to, making tables on the way. -/
def reach (f : String → Tree → Option Tree) : (path : List String) → Tree → Option Tree
  | [], _ => none
  | [k], t => f k t
  | k :: path, t =>
    match Table.get? t k with
    | none => (reach f path []).map fun sub => Table.insert t k (.table .implied sub)
    | some (.table origin sub) =>
      (reach f path sub).map fun sub => Table.insert t k (.table origin sub)
    | some (.tables items) =>
      match items.getLast? with
      | none => none
      | some last => (reach f path last).map fun last =>
        Table.insert t k (.tables (items.dropLast ++ [last]))
    | some (.value _) => none

/-- Defines the table of a header. -/
def define (path : List String) (t : Tree) : Option Tree :=
  reach (fun k t =>
    match Table.get? t k with
    | none => some (Table.insert t k (.table .header []))
    | some (.table .implied sub) => some (Table.insert t k (.table .header sub))
    | some _ => none) path t

/-- Adds a table for a header in double brackets. -/
def append (path : List String) (t : Tree) : Option Tree :=
  reach (fun k t =>
    match Table.get? t k with
    | none => some (Table.insert t k (.tables [[]]))
    | some (.tables items) => some (Table.insert t k (.tables (items ++ [[]])))
    | some _ => none) path t

/-- Sets a key below the header in force. -/
def assignUnder (header path : List String) (key : String) (v : Value) (t : Tree) : Option Tree :=
  match header with
  | [] => assign path key v true t
  | _ => reach (fun k t =>
    match Table.get? t k with
    | some (.table origin sub) =>
      (assign path key v true sub).map fun sub => Table.insert t k (.table origin sub)
    | some (.tables items) =>
      match items.getLast? with
      | none => none
      | some last => (assign path key v true last).map fun last =>
        Table.insert t k (.tables (items.dropLast ++ [last]))
    | _ => none) header t

end Tree

mutual

/-- The value of what stands under a key. -/
def Node.toValue : Node → Value
  | .value v => v
  | .table _ entries => .object (Node.entryValues entries)
  | .tables items => .array (Node.itemValues items)

/-- The values of the entries of a table. -/
def Node.entryValues : List (String × Node) → List (String × Value)
  | [] => []
  | (k, n) :: rest => (k, n.toValue) :: Node.entryValues rest

/-- The values of several tables. -/
def Node.itemValues : List (List (String × Node)) → List Value
  | [] => []
  | t :: rest => .object (Node.entryValues t) :: Node.itemValues rest

end

end IncidentRelay.Toml
