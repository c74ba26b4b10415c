import IncidentRelay.Text.Lines
import IncidentRelay.Text.Ascii

/-!
# Request targets

The target of a request: a path and a query. It is given as a path, as a whole address whose host
does not matter, as a lone host, or as an asterisk. A path is taken as it is written, with its
percent signs, and what follows a hash sign is dropped.

## Main statements

* `Target.ofPath?_of_hash`: what follows a hash sign does not matter.
-/

namespace IncidentRelay.Server

/-- A path and the query behind it, both as they were written. -/
structure Target where
  path : String
  query : Option String := none
  deriving DecidableEq

namespace Target

/-- The characters of a path, and all beyond ASCII. -/
def isPathChar (c : Char) : Bool :=
  '!' ≤ c && "#<>?`".toList.all (· != c)

/-- The characters of a query, and all beyond ASCII. -/
def isQueryChar (c : Char) : Bool :=
  '!' ≤ c && "\"#<>".toList.all (· != c)

/-- The target of a path with its query. An empty path is the root. -/
def ofPath? (cs : List Char) : Option Target :=
  let cs := cs.takeWhile (· != '#')
  let path := cs.takeWhile (· != '?')
  let query := (Text.cut? '?' cs).map (·.2)
  if path.all isPathChar && (query.getD []).all isQueryChar then
    some { path := if path.isEmpty then "/" else String.ofList path,
           query := query.map String.ofList }
  else none

/-- A fragment does not count as part of what is before it. -/
theorem takeWhile_append_hash (cs rest : List Char) :
    (cs ++ '#' :: rest).takeWhile (· != '#') = cs.takeWhile (· != '#') := by
  induction cs with
  | nil => simp
  | cons c cs ih => by_cases h : c = '#' <;> simp [h, ih]

/-- The fragment of a target is no part of its path. -/
theorem ofPath?_of_hash (cs rest : List Char) : ofPath? (cs ++ '#' :: rest) = ofPath? cs := by
  simp only [ofPath?, takeWhile_append_hash]

/-- The characters of a host and what belongs to it. -/
def isHostChar (c : Char) : Bool :=
  Text.isAlphanumeric c || "!$%&'()*+,-.:;=@[]_~".toList.contains c

/-- What is known while a host is read. -/
structure HostReading where
  /-- The colons that may come before a port. -/
  colons : Nat := 0
  opened : Bool := false
  closed : Bool := false
  percent : Bool := false
  /-- Whether the last character was an at sign. -/
  atEnd : Bool := false

/-- Reads one character of a host. An at sign ends the name of a user, and a bracket a numeric
host; what came before them counts no more. -/
def HostReading.step (r : HostReading) (c : Char) : Option HostReading :=
  let r := { r with atEnd := c == '@' }
  if !isHostChar c then none
  else if c = ':' then some { r with colons := r.colons + 1 }
  else if c = '[' then
    if r.percent || r.opened then none else some { r with opened := true }
  else if c = ']' then
    if !r.opened || r.closed then none
    else some { r with closed := true, colons := 0, percent := false }
  else if c = '@' then some { r with colons := 0, percent := false }
  else if c = '%' then some { r with percent := true }
  else some r

/-- Whether a text is a host, with or without a user and a port. -/
def isHost (cs : List Char) : Bool :=
  match cs.foldlM HostReading.step {} with
  | some r =>
    !cs.isEmpty && r.opened == r.closed && r.colons ≤ 1 && !r.percent && !r.atEnd
  | none => false

/-- The longest scheme of an address. -/
def longestScheme : Nat := 64

/-- The part of an address behind its scheme, if it has one. -/
def afterScheme? (cs : List Char) : Option (List Char) :=
  let isSchemeChar (c : Char) : Bool :=
    Text.isAlphanumeric c || c == '+' || c == '-' || c == '.'
  match cs.dropWhile isSchemeChar with
  | ':' :: '/' :: '/' :: rest => some rest
  | _ => none

/-- The longest target in bytes. -/
def longest : Nat := 65534

/-- Reads a target. -/
def read? (s : String) : Option Target :=
  let cs := s.toList
  let isPathStart (c : Char) : Bool := c == '/' || c == '?' || c == '#'
  if longest < s.utf8ByteSize then none
  else
    match cs with
    | '/' :: _ => ofPath? cs
    | ['*'] => some { path := "*" }
    | _ =>
      match afterScheme? cs with
      | some rest =>
        if longestScheme < cs.length - rest.length - 3 then none
        else if isHost (rest.takeWhile fun c => !isPathStart c) then
          ofPath? (rest.dropWhile fun c => !isPathStart c)
        else none
      | none => if isHost cs then some { path := "" } else none

end Target

end IncidentRelay.Server
