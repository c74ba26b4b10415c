import IncidentRelay.Template.Registry

/-!
# Drills of a template's file

A template file that is written and deleted while a template is loaded from it and rendered. How the
template library finds what is rendered is open here.

## Main statements

* `TemplateDrill.stepBy_load_of_error`: a load that fails leaves the template that was loaded
  before.
-/

namespace IncidentRelay

open Template (Finder)

/-- The files, and the template that was loaded last. -/
structure TemplateDrill where
  /-- Whether values are escaped for HTML. -/
  html : Bool
  files : Files := []
  loaded : Option MessageTemplate := none

namespace TemplateDrill

/-- The file of the drill. -/
def path : String := "t.hbs"

/-- A step of a drill. -/
inductive Step
  | write (text : String)
  | delete
  | load
  | render (content : Content)

/-- What came of a step. -/
inductive Outcome
  | done
  /-- The template could not be loaded or rendered. -/
  | failed (e : TemplateError)
  | shown (text : String)
  | notLoaded
  deriving DecidableEq

/-- Does one step, with a library that finds templates. -/
def stepBy (find : Finder) (d : TemplateDrill) : Step → Outcome × TemplateDrill
  | .write text => (.done, { d with files := Table.insert d.files path text })
  | .delete => (.done, { d with files := Table.erase d.files path })
  | .load =>
    match MessageTemplate.load d.files d.html path with
    | .ok m => (.done, { d with loaded := some m })
    | .error e => (.failed e, d)
  | .render content =>
    match d.loaded with
    | none => (.notLoaded, d)
    | some m =>
      match m.renderBy find d.files content with
      | .ok text => (.shown text, d)
      | .error e => (.failed e, d)

/-- Does steps one after the other, each with the escaping of a template that it loads. -/
def runBy (find : Finder) (d : TemplateDrill) : List (Bool × Step) → List Outcome
  | [] => []
  | (html, s) :: rest =>
    let (o, d) := stepBy find { d with html } s
    o :: runBy find d rest

/-- Does steps one after the other, with one escaping throughout. -/
def run (d : TemplateDrill) (steps : List Step) : List Outcome :=
  runBy Template.Registry.find d (steps.map (d.html, ·))

/-- A step is taken before the rest of the run. -/
theorem runBy_cons (find : Finder) (d : TemplateDrill) (html : Bool) (s : Step)
    (rest : List (Bool × Step)) :
    d.runBy find ((html, s) :: rest) =
      (stepBy find { d with html } s).1 :: runBy find (stepBy find { d with html } s).2 rest := rfl

/-- A load that fails leaves the template that was loaded before. -/
theorem stepBy_load_of_error {find : Finder} {d : TemplateDrill} {e : TemplateError}
    (h : MessageTemplate.load d.files d.html path = .error e) :
    stepBy find d .load = (.failed e, d) := by
  simp only [stepBy, h]

end TemplateDrill

end IncidentRelay
