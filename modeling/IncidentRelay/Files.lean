import IncidentRelay.Table
import IncidentRelay.Text.Lines

/-!
# Files

The text files that the service can read, by path. A relative path starts at the working directory,
and two paths that lead to the same place from the same start read the same file.

## Main statements

* `Files.read?_insert`: a file is read by every path that leads to it.
* `Files.read?_nil`: without files there is nothing to read.
-/

namespace IncidentRelay

/-- The text files within reach, under their normal paths. -/
abbrev Files := Table String

/-- The steps of a path without those that lead nowhere. Above the root there is nothing, while a
relative path can lead out of the working directory. -/
def normalSteps (absolute : Bool) : (done : List String) → List String → List String
  | done, [] => done.reverse
  | done, s :: rest =>
    if s = "" ∨ s = "." then normalSteps absolute done rest
    else if s = ".." then
      match done with
      | [] => normalSteps absolute (if absolute then [] else [".."]) rest
      | last :: before =>
        normalSteps absolute (if last = ".." then ".." :: done else before) rest
    else normalSteps absolute (s :: done) rest

/-- The normal form of a path. A path that ends in a slash, or in a step that leads nowhere, names
no file. -/
def normalPath? (path : String) : Option String :=
  let steps := Text.split '/' path
  let last := steps.getLast?.getD ""
  let absolute := path.startsWith "/"
  if last = "" ∨ last = "." ∨ last = ".." then none
  else some ((if absolute then "/" else "") ++ "/".intercalate (normalSteps absolute [] steps))

/-- The text of a file. -/
def Files.read? (files : Files) (path : String) : Option String :=
  (normalPath? path).bind (Table.get? files)

/-- Without files there is nothing to read. -/
theorem Files.read?_nil (path : String) : Files.read? [] path = none := by
  simp [Files.read?, Table.get?]

/-- A file that was written at a place is read by every path that leads there. -/
theorem Files.read?_insert {path place : String} (h : normalPath? path = some place)
    (files : Files) (text : String) :
    Files.read? (Table.insert files place text) path = some text := by
  simp [Files.read?, h, Table.get?_insert]

end IncidentRelay
