import IncidentRelay.Files
import IncidentRelay.Template.Basic

/-!
# Registries of templates

Templates under names, as the template library keeps them. A template is compiled when it is
registered and kept in that form, and what cannot be read or compiled registers nothing. In
development mode a registry remembers the file of a template as well.

Which template is then rendered under a name is for the library to find. It documents that in
development mode a template with a file is read and compiled anew each time, and that any other
template is the one that was kept. `Finder.Documented` is this promise, and `Registry.find` a way of
keeping it. A message has a registry of its own with a single template, which stays as it was
registered unless development mode was on before.

## Main statements

* `Registry.find_documented`: the library's promise can be kept.
* `MessageTemplate.ofText_eq`: the template of a text at hand is that text compiled.
* `MessageTemplate.load_ofFile`: the template that was loaded from a file belongs to that file.
* `MessageTemplate.OfFile.renderBy_eq`: the template of a file shows what its text shows now.
-/

namespace IncidentRelay

namespace Template

/-- Templates under names. -/
structure Registry where
  /-- Whether values are escaped for HTML. -/
  html : Bool
  /-- Whether the files of templates are remembered. -/
  devMode : Bool := false
  /-- The templates as they were compiled when they were registered. -/
  kept : Table (List Element) := []
  /-- The files of the templates that were registered from one in development mode. -/
  sources : Table String := []

/-- How the library finds the template under a name, with the files as they are. -/
abbrev Finder := Files → Registry → String → Except TemplateError Template

/-- Compiles the present text of a file. -/
def compileFile (files : Files) (html : Bool) (path : String) : Except TemplateError Template :=
  match files.read? path with
  | some text => compile html text
  | none => .error .unreadable

namespace Registry

/-- Turns development mode on or off. Without it no files are remembered. -/
def setDevMode (r : Registry) (enabled : Bool) : Registry :=
  { r with devMode := enabled, sources := if enabled then r.sources else [] }

/-- Registers a text under a name. -/
def registerText (r : Registry) (name text : String) : Except TemplateError Registry :=
  (compile r.html text).map fun t => { r with kept := Table.insert r.kept name t.elements }

/-- Registers a file under a name, with its present text. -/
def registerFile (files : Files) (r : Registry) (name path : String) :
    Except TemplateError Registry :=
  match files.read? path with
  | none => .error .unreadable
  | some text =>
    (r.registerText name text).map fun r =>
      if r.devMode then { r with sources := Table.insert r.sources name path } else r

/-- The template that was kept under a name. -/
def keptUnder (r : Registry) (name : String) : Except TemplateError Template :=
  match Table.get? r.kept name with
  | some elements => .ok { html := r.html, elements }
  | none => .error (.unknown name)

/-- Finds a template: in development mode from its file, if it has one. -/
def find : Finder := fun files r name =>
  match r.devMode, Table.get? r.sources name with
  | true, some path => compileFile files r.html path
  | true, none | false, _ => r.keptUnder name

end Registry

/-- What the library documents of how it finds a template. -/
structure Finder.Documented (find : Finder) : Prop where
  /-- In development mode the file of a template is read and compiled each time. -/
  reloads {files : Files} {r : Registry} {name path : String} (hdev : r.devMode = true)
    (hsource : Table.get? r.sources name = some path) :
    find files r name = compileFile files r.html path
  /-- A template without a file in development mode is the one that was kept. -/
  keeps {files : Files} {r : Registry} {name : String}
    (h : r.devMode = false ∨ Table.get? r.sources name = none) :
    find files r name = r.keptUnder name

/-- The library's promise can be kept. -/
theorem Registry.find_documented : Finder.Documented find where
  reloads hdev hsource := by
    simp only [find, hdev, hsource]
  keeps {files r name} h := by
    rcases h with hdev | hsource
    · simp only [find, hdev]
    · cases hdev : r.devMode <;> simp only [find, hdev, hsource]

end Template

open Template (Registry Finder)

/-- The template of a channel's messages, in a registry of its own. -/
structure MessageTemplate where
  registry : Registry

namespace MessageTemplate

/-- The name under which a message's template is registered. -/
def name : String := "message"

/-- A template that is compiled already. -/
def compiled (t : Template) : MessageTemplate where
  registry := { html := t.html, kept := [(name, t.elements)] }

/-- The template of a file, with what the text of the file was compiled to. -/
def loaded (t : Template) (path : String) : MessageTemplate where
  registry := {
    html := t.html, devMode := true, kept := [(name, t.elements)], sources := [(name, path)] }

/-- The template of a text at hand. -/
def ofText (html : Bool) (text : String) : Except TemplateError MessageTemplate :=
  (Registry.registerText { html } name text).map mk

/-- The template of a file, which has to compile as it is now. -/
def load (files : Files) (html : Bool) (path : String) : Except TemplateError MessageTemplate :=
  match (Registry.setDevMode { html } true).registerFile files name path with
  | .ok registry => .ok { registry }
  | .error e => .error (.inFile path e)

/-- The message for a content, with a library that finds the template. -/
def renderBy (find : Finder) (files : Files) (m : MessageTemplate) (content : Content) :
    Except TemplateError String :=
  match find files m.registry name with
  | .ok t => t.render content
  | .error e => .error e

/-- The message for a content. -/
def render (files : Files) (m : MessageTemplate) (content : Content) :
    Except TemplateError String :=
  m.renderBy Registry.find files content

/-- The template of a text at hand is that text compiled. -/
theorem ofText_eq (html : Bool) (text : String) :
    ofText html text = (Template.compile html text).map compiled := by
  simp only [ofText, Registry.registerText]
  cases h : Template.compile html text with
  | error e => rfl
  | ok t =>
      obtain rfl := Template.html_of_compile h
      rfl

/-- A text at hand has a template if it compiles. -/
theorem isOk_ofText (html : Bool) (text : String) :
    (ofText html text).isOk = (Template.compile html text).isOk := by
  rw [ofText_eq]
  cases Template.compile html text <;> rfl

/-- A template that is compiled already shows what it shows, whatever the files are. -/
theorem renderBy_compiled {find : Finder} (hfind : find.Documented) (files : Files) (t : Template)
    (content : Content) : (compiled t).renderBy find files content = t.render content := by
  have hkept : find files (compiled t).registry name = .ok t := hfind.keeps (.inl rfl)
  simp only [renderBy, hkept]

/-- Whether a template belongs to a file, so that the library looks there for it. -/
structure OfFile (m : MessageTemplate) (html : Bool) (path : String) : Prop where
  html_eq : m.registry.html = html
  devMode : m.registry.devMode = true
  source : Table.get? m.registry.sources name = some path

/-- A file can be loaded if there is one and its present text compiles. -/
theorem load_eq (files : Files) (html : Bool) (path : String) :
    load files html path =
      match Template.compileFile files html path with
      | .ok t => .ok (loaded t path)
      | .error e => .error (.inFile path e) := by
  simp only [load, Registry.registerFile, Template.compileFile]
  cases files.read? path with
  | none => rfl
  | some text =>
      simp only [Registry.registerText, Registry.setDevMode]
      cases h : Template.compile html text with
      | error e => rfl
      | ok t =>
          obtain rfl := Template.html_of_compile h
          rfl

/-- The present text of a file is compiled to escape as asked. -/
theorem html_of_compileFile {files : Files} {html : Bool} {path : String} {t : Template}
    (h : Template.compileFile files html path = .ok t) : t.html = html := by
  simp only [Template.compileFile] at h
  split at h
  · exact Template.html_of_compile h
  · exact nomatch h

/-- A template that was loaded from a file is one of that file. -/
theorem loaded_ofFile (t : Template) (path : String) : (loaded t path).OfFile t.html path :=
  ⟨rfl, rfl, by simp [loaded, Table.get?]⟩

/-- The template that was loaded from a file belongs to that file. -/
theorem load_ofFile {files : Files} {html : Bool} {path : String} {m : MessageTemplate}
    (h : load files html path = .ok m) : m.OfFile html path := by
  rw [load_eq] at h
  cases hfile : Template.compileFile files html path with
  | error e => simp [hfile] at h
  | ok t =>
      simp only [hfile, Except.ok.injEq] at h
      subst h
      exact html_of_compileFile hfile ▸ loaded_ofFile t path

/-- The template of a file shows what its text shows now, whatever was compiled before. -/
theorem OfFile.renderBy_eq {find : Finder} (hfind : find.Documented) {m : MessageTemplate}
    {html : Bool} {path : String} (h : m.OfFile html path) (files : Files) (content : Content) :
    m.renderBy find files content =
      match Template.compileFile files html path with
      | .ok t => t.render content
      | .error e => .error e := by
  simp only [renderBy, hfind.reloads h.devMode h.source, h.html_eq]

end MessageTemplate

end IncidentRelay
