import IncidentRelay.Incident
import IncidentRelay.Template.Render
import IncidentRelay.Template.Tree

/-!
# Templates

The text of a message, with places for what an incident reports. A template is compiled from a text
once, and can then be rendered for any content.

## Main statements

* `Template.html_of_compile`: a template escapes as it was compiled to.
-/

namespace IncidentRelay

/-- Why a message could not be rendered. -/
inductive TemplateError
  /-- The file of a template cannot be read. -/
  | unreadable
  | uncompilable
  | unrenderable
  /-- There is no template of the name. -/
  | unknown (name : String)
  /-- A template could not be loaded from a file. -/
  | inFile (path : String) (cause : TemplateError)
  deriving DecidableEq

/-- The text of a template error. -/
def TemplateError.message : TemplateError → String
  | .unreadable => "the file cannot be read"
  | .uncompilable => "the template does not compile"
  | .unrenderable => "the template does not fit the content"
  | .unknown name => "there is no template " ++ name
  | .inFile path cause => path ++ ": " ++ cause.message

/-- A compiled template. -/
structure Template where
  /-- Whether values are escaped for HTML. -/
  html : Bool
  elements : List Template.Element

namespace Template

/-- How deep pieces may include one another. -/
def inclusionDepth : Nat := 1000

/-- Compiles a text. -/
def compile (html : Bool) (text : String) : Except TemplateError Template :=
  match parse text.toList with
  | some elements => .ok { html, elements }
  | none => .error .uncompilable

/-- The text that a template shows for a content. -/
def render (t : Template) (content : Content) : Except TemplateError String :=
  let root : Json.Value := .object content
  match renderWithin t.html root inclusionDepth [] [{ base := root }] [] t.elements with
  | some (text, _) => .ok (String.ofList text)
  | none => .error .unrenderable

/-- A template escapes as it was compiled to. -/
theorem html_of_compile {html : Bool} {text : String} {t : Template}
    (h : compile html text = .ok t) : t.html = html := by
  simp only [compile] at h
  split at h
  · cases h
    rfl
  · exact nomatch h

/-- There is one reason why a text does not compile. -/
theorem eq_uncompilable_of_compile {html : Bool} {text : String} {e : TemplateError}
    (h : compile html text = .error e) : e = .uncompilable := by
  simp only [compile] at h
  split at h
  · exact nomatch h
  · exact (Except.error.inj h).symm

end Template

end IncidentRelay
