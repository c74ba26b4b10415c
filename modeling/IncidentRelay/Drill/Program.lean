import IncidentRelay.Program

/-!
# A machine for drills

A machine with files and an environment as told, on which nothing but the program listens. It owns
the loopback addresses alone, and no name is known but that of the machine itself.
-/

namespace IncidentRelay.DrillMachine

/-- The numbers of a numeric address. -/
def numbers? (host : String) : Option (List Nat) :=
  let parts := Text.split '.' host
  match parts.mapM Text.natural? with
  | some ns =>
    if ns.length = 4 ∧ ns.all (· < 256) ∧ parts.all fun p => p = "0" ∨ !p.startsWith "0" then
      some ns
    else none
  | none => none

/-- Listens at a host and a port. -/
def listen (s : Settings.Server) : Except String String :=
  let host := s.host
  let address := host ++ ":" ++ toString s.port
  if host = "localhost" ∨ host = "[::1]" ∨ host = "[::]" then .ok address
  else
    match numbers? host with
    | some ns =>
      if ns = [0, 0, 0, 0] ∨ ns.head? = some 127 then .ok address
      else .error "Cannot assign requested address (os error 99)"
    | none => .error "failed to lookup address information: Name or service not known"

/-- The machine with files and an environment. -/
def surroundings (files : Files) (environment : Table String) : Surroundings where
  files
  environment
  redis := .error (.unavailable "Connection refused (os error 111)")
  listening := listen

end IncidentRelay.DrillMachine
