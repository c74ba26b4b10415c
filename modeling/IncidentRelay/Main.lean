import IncidentRelay.Program

/-!
# The command line

Reads what a run needs from the surroundings of the process and prints what the run prints. The
process itself opens no connections: a run here shows whether the service would start.
-/

namespace IncidentRelay

/-- The text of a file, if it can be read. -/
def readText? (path : String) : IO (Option String) := do
  try
    return some (← IO.FS.readFile path)
  catch _ =>
    return none

/-- The files among these that can be read, on top of others. -/
def readFiles (known : Files) (paths : List String) : IO Files :=
  paths.foldlM (fun files path => do
    match normalPath? path, ← readText? path with
    | some place, some text => return Table.insert files place text
    | _, _ => return files) known

/-- The environment of the process. -/
def readEnvironment : IO (Table String) := do
  let text := (← readText? "/proc/self/environ").getD ""
  return Table.ofList ((Text.split (Char.ofNat 0) text).filterMap fun entry =>
    (Text.cut? '=' entry.toList).map fun (name, value) =>
      (String.ofList name, String.ofList value))

end IncidentRelay

open IncidentRelay in
/-- One run of the program. -/
def main (args : List String) : IO UInt32 := do
  let environment ← readEnvironment
  let files ← readFiles [] (Program.settingsPaths args)
  let files ← readFiles files (Program.templatePaths files environment args)
  let run := Program.run
    { files, environment, redis := .ok (),
      listening := fun s => .ok (s.host ++ ":" ++ toString s.port) } args
  for line in run.out do
    IO.println line.text
  for line in run.err do
    IO.eprintln line
  return UInt32.ofNat run.exit
