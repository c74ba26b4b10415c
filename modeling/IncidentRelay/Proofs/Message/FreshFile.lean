import IncidentRelay.Drill.TemplateFile

/-!
# Messages from a template file

A template that was loaded from a file shows what the text of the file shows at the moment of the
message, as if it had just been compiled from that text. The registry of the template still keeps
what was compiled when it was loaded, but its file is remembered too, and the library that finds the
template in a registry promises to read that anew. So nothing else counts of the loads before: only
that one of them has succeeded, and whether it was to escape values for HTML.

The second side is a record of just that, with every message made from a text at hand.

## Main statements

* `TemplateDrill.Agrees.step`: a step of a drill and what its record says of it.
* `TemplateDrill.step_of_failed`: what fails changes nothing.
* `TemplateDrill.never_stale`: every step of a run, whatever was written, deleted, loaded and shown
  before.
-/

namespace IncidentRelay

open Template (Finder)

namespace TemplateDrill

variable {find : Finder}

/-- Showing a message changes nothing. -/
theorem step_render_snd (d : TemplateDrill) (content : Content) :
    (d.stepBy find (.render content)).2 = d := by
  simp only [stepBy]
  split
  · rfl
  · split <;> rfl

/-! ### The record of a drill -/

/-- What has to be known of a drill. -/
structure Known where
  /-- The text of the file, if there is one. -/
  text : Option String := none
  /-- Whether the template that was loaded last escapes values, if one was loaded. -/
  inUse : Option Bool := none

namespace Known

/-- Whether the file can be loaded. -/
def loads (k : Known) (html : Bool) : Bool :=
  k.text.any fun text => (MessageTemplate.ofText html text).isOk

/-- The message of a text at hand. -/
def messageOf (find : Finder) (html : Bool) (text : String) (content : Content) :
    Except TemplateError String :=
  (MessageTemplate.ofText html text).bind fun m => m.renderBy find [] content

/-- What a step comes to. -/
def outcome (find : Finder) (k : Known) (html : Bool) : Step → Outcome
  | .write _ | .delete => .done
  | .load =>
    if k.loads html then .done
    else .failed (.inFile path (if k.text.isNone then .unreadable else .uncompilable))
  | .render content =>
    match k.inUse, k.text with
    | none, _ => .notLoaded
    | some _, none => .failed .unreadable
    | some html, some text =>
      match messageOf find html text content with
      | .ok shown => .shown shown
      | .error e => .failed e

/-- What is known after a step. -/
def after (k : Known) (html : Bool) : Step → Known
  | .write text => { k with text := some text }
  | .delete => { k with text := none }
  | .load => if k.loads html then { k with inUse := some html } else k
  | .render _ => k

/-- What is known after steps from the beginning on. -/
def ofSteps (steps : List (Bool × Step)) : Known := steps.foldl (fun k s => k.after s.1 s.2) {}

end Known

/-- A drill of which this is known. What its registry keeps in compiled form is not. -/
structure Agrees (d : TemplateDrill) (k : Known) : Prop where
  text : d.files.read? path = k.text
  loaded : Option.Rel (fun html m => MessageTemplate.OfFile m html path) k.inUse d.loaded

variable {d : TemplateDrill} {k : Known}

/-- A file in the working directory is read by its name. -/
theorem read?_path (files : Files) : files.read? path = Table.get? files path := by
  have hpath : normalPath? path = some path := by decide +kernel
  rw [Files.read?, hpath, Option.bind_some]

/-- A file can be loaded if there is one and its text compiles, and belongs to its template then. -/
theorem load_cases (h : d.files.read? path = k.text) (html : Bool) :
    (k.loads html = true ∧ ∃ m, MessageTemplate.load d.files html path = .ok m ∧
        m.OfFile html path) ∨
      k.loads html = false ∧ MessageTemplate.load d.files html path =
        .error (.inFile path (if k.text.isNone then .unreadable else .uncompilable)) := by
  cases htext : k.text with
  | none =>
      refine .inr ⟨by rw [Known.loads, htext, Option.any_none], ?_⟩
      simp only [MessageTemplate.load_eq, Template.compileFile, h, htext, Option.isNone_none,
        if_true]
  | some text =>
      have hloads : k.loads html = (Template.compile html text).isOk := by
        rw [Known.loads, htext, Option.any_some, MessageTemplate.isOk_ofText]
      have hfile : Template.compileFile d.files html path = Template.compile html text := by
        simp only [Template.compileFile, h, htext]
      cases hcompile : Template.compile html text with
      | ok t =>
          have hload : MessageTemplate.load d.files html path = .ok (.loaded t path) := by
            simp only [MessageTemplate.load_eq, hfile, hcompile]
          exact .inl ⟨hloads.trans (congrArg _ hcompile), _, hload,
            MessageTemplate.load_ofFile hload⟩
      | error e =>
          obtain rfl := Template.eq_uncompilable_of_compile hcompile
          refine .inr ⟨hloads.trans (congrArg _ hcompile), ?_⟩
          simp only [MessageTemplate.load_eq, hfile, hcompile, Option.isNone_some,
            Bool.false_eq_true, if_false]

/-- The template of a file shows what the text of the file at hand shows. -/
theorem renderBy_eq (hfind : find.Documented) {files : Files} {text : String}
    (h : files.read? path = some text) {m : MessageTemplate} {html : Bool}
    (hm : m.OfFile html path) (content : Content) :
    m.renderBy find files content = Known.messageOf find html text content := by
  rw [hm.renderBy_eq hfind, Known.messageOf, MessageTemplate.ofText_eq, Template.compileFile]
  simp only [h]
  cases Template.compile html text with
  | ok t => exact (MessageTemplate.renderBy_compiled hfind [] t content).symm
  | error e => rfl

/-- The template of a file that is not there cannot be shown. -/
theorem renderBy_of_none (hfind : find.Documented) {files : Files}
    (h : files.read? path = none) {m : MessageTemplate} {html : Bool} (hm : m.OfFile html path)
    (content : Content) : m.renderBy find files content = .error .unreadable := by
  simp only [hm.renderBy_eq hfind, Template.compileFile, h]

/-- A message comes to what is known of the file and of the template in use. -/
theorem Agrees.step_render (hfind : find.Documented) (h : Agrees d k) (html : Bool)
    (content : Content) :
    (d.stepBy find (.render content)).1 = k.outcome find html (.render content) := by
  have hloaded := h.loaded
  simp only [stepBy, Known.outcome]
  generalize d.loaded = loaded at hloaded
  generalize k.inUse = inUse at hloaded
  cases hloaded with
  | none => rfl
  | some hm =>
      cases htext : k.text with
      | none => simp only [renderBy_of_none hfind (h.text.trans htext) hm]
      | some text =>
          simp only [renderBy_eq hfind (h.text.trans htext) hm]
          cases Known.messageOf find _ text content <;> rfl

/-- A step comes to what is known of it, and so it goes on. -/
theorem Agrees.step (hfind : find.Documented) (h : Agrees d k) (html : Bool) (s : Step) :
    (stepBy find { d with html } s).1 = k.outcome find html s ∧
      Agrees (stepBy find { d with html } s).2 (k.after html s) := by
  cases s with
  | write text =>
      refine ⟨rfl, ⟨?_, h.loaded⟩⟩
      exact (read?_path _).trans (by simp [stepBy, Known.after, Table.get?_insert])
  | delete =>
      refine ⟨rfl, ⟨?_, h.loaded⟩⟩
      exact (read?_path _).trans (by simp [stepBy, Known.after, Table.get?_erase])
  | load =>
      simp only [stepBy, Known.outcome, Known.after]
      rcases load_cases h.text html with ⟨hloads, m, hload, hm⟩ | ⟨hloads, hload⟩
      · simp only [hloads, hload, if_true]
        exact ⟨trivial, h.text, .some hm⟩
      · simp only [hloads, hload, Bool.false_eq_true, if_false]
        exact ⟨trivial, h.text, h.loaded⟩
  | render content =>
      have hsame : Agrees { d with html } k := ⟨h.text, h.loaded⟩
      refine ⟨hsame.step_render hfind html content, ?_⟩
      rw [step_render_snd]
      exact hsame

/-! ### Whole runs -/

/-- What steps leave. -/
def finish (find : Finder) (d : TemplateDrill) : List (Bool × Step) → TemplateDrill
  | [] => d
  | (html, s) :: rest => finish find (stepBy find { d with html } s).2 rest

/-- Runs one after the other are one run. -/
theorem runBy_append (d : TemplateDrill) (steps later : List (Bool × Step)) :
    d.runBy find (steps ++ later) =
      d.runBy find steps ++ (d.finish find steps).runBy find later := by
  induction steps generalizing d with
  | nil => rfl
  | cons first rest ih =>
      obtain ⟨html, s⟩ := first
      simp only [List.cons_append, runBy_cons, finish, ih]

/-- Every load of a run says for itself whether to escape. -/
theorem runBy_html (d : TemplateDrill) (html : Bool) (steps : List (Bool × Step)) :
    runBy find { d with html } steps = d.runBy find steps := by
  cases steps <;> rfl

/-- After steps of a drill that agreed with its record, it agrees with what is known of the
steps. -/
theorem Agrees.finish (hfind : find.Documented) (h : Agrees d k) (steps : List (Bool × Step)) :
    Agrees (d.finish find steps) (steps.foldl (fun k s => k.after s.1 s.2) k) := by
  induction steps generalizing d k with
  | nil => exact h
  | cons s rest ih => exact ih (h.step hfind s.1 s.2).2

/-- At the beginning there is no file, and nothing is in use. -/
theorem Agrees.start (html : Bool) : Agrees { html } {} := ⟨read?_path [], .none⟩

/-- What fails changes nothing. -/
theorem step_of_failed {s : Step} {e : TemplateError} (h : (d.stepBy find s).1 = .failed e) :
    (d.stepBy find s).2 = d := by
  cases s with
  | write | delete => cases h
  | load =>
      cases hload : MessageTemplate.load d.files d.html path with
      | ok m => simp [stepBy, hload] at h
      | error e => rw [stepBy_load_of_error hload]
  | render content => exact step_render_snd d content

/-- A template comes into use by a load that succeeds. -/
theorem Known.isSome_inUse_after (find : Finder) (k : Known) (html : Bool) (s : Step) :
    (k.after html s).inUse.isSome ↔
      k.inUse.isSome ∨ s = .load ∧ k.outcome find html s = .done := by
  cases s with
  | write | delete | render => simp [Known.after]
  | load => cases hloads : k.loads html <;> simp [Known.after, Known.outcome, hloads]

/-- A template is in use once a load of a run has succeeded. -/
theorem Agrees.isSome_inUse (hfind : find.Documented) (h : Agrees d k)
    (steps : List (Bool × Step)) :
    (steps.foldl (fun k s => k.after s.1 s.2) k).inUse.isSome ↔
      k.inUse.isSome ∨
        ∃ html, ((html, Step.load), Outcome.done) ∈ steps.zip (d.runBy find steps) := by
  induction steps generalizing d k with
  | nil => simp
  | cons s rest ih =>
      obtain ⟨html, s⟩ := s
      have hstep := h.step hfind html s
      rw [List.foldl_cons, ih hstep.2, Known.isSome_inUse_after find, ← hstep.1]
      simp only [runBy_cons, List.zip_cons_cons, List.mem_cons, Prod.mk.injEq]
      constructor
      · rintro ((hbefore | ⟨rfl, hdone⟩) | ⟨html', hlater⟩)
        · exact .inl hbefore
        · exact .inr ⟨html, .inl ⟨⟨rfl, rfl⟩, hdone.symm⟩⟩
        · exact .inr ⟨html', .inr hlater⟩
      · rintro (hbefore | ⟨html', ⟨⟨-, hs⟩, hdone⟩ | hlater⟩)
        · exact .inl (.inl hbefore)
        · exact .inl (.inr ⟨hs.symm, hdone.symm⟩)
        · exact .inr ⟨html', hlater⟩

/-- Let the library find templates as it documents. Whatever was written, deleted, loaded and shown
before, a step comes to what the text of the file at that moment gives: a load fails if there is no
file or its text does not compile, and a message of a template in use is the message of that text at
hand. A template is in use once a load has succeeded. A step that fails, and every message, can be
left out, and what comes later is the same. -/
theorem never_stale (hfind : find.Documented) (start : Bool) (before later : List (Bool × Step))
    (html : Bool) (s : Step) :
    let known := Known.ofSteps before
    let run := runBy find { html := start }
    (known.inUse.isSome ↔
      ∃ escaping, ((escaping, Step.load), Outcome.done) ∈ before.zip (run before)) ∧
    ∃ outcomes,
      run (before ++ (html, s) :: later) =
        run before ++ known.outcome find html s :: outcomes ∧
      ((∃ e, known.outcome find html s = .failed e) ∨ (∃ content, s = .render content) →
        run (before ++ later) = run before ++ outcomes) := by
  intro known run
  have hstart := Agrees.start start
  refine ⟨(hstart.isSome_inUse hfind before).trans (by simp [run]), ?_⟩
  generalize hd : finish find { html := start } before = d
  have hnow : Agrees d known := hd ▸ hstart.finish hfind before
  have hstep := (hnow.step hfind html s).1
  refine ⟨(stepBy find { d with html } s).2.runBy find later, ?_, fun hidle => ?_⟩
  · simp only [run]
    rw [runBy_append, hd, runBy_cons, hstep]
  · have hsame : (stepBy find { d with html } s).2 = { d with html } := by
      obtain ⟨e, hfailed⟩ | ⟨content, rfl⟩ := hidle
      · exact step_of_failed (hstep.trans hfailed)
      · exact step_render_snd _ content
    simp only [run]
    rw [runBy_append, hd, hsame, runBy_html d html]

/-- A file that is broken after the load, and mended after a message has failed, with a library that
keeps its promise. -/
theorem never_stale_mended :
    let find := Template.Registry.find
    let broken : List (Bool × Step) :=
      [(true, .write "\x7b\x7bn\x7d\x7d"), (true, .load), (true, .write "\x7b\x7b")]
    let mended : List (Bool × Step) :=
      [(true, .write "is \x7b\x7bn\x7d\x7d"), (true, .render [("n", .string "<a>")])]
    find.Documented ∧
      (Known.ofSteps broken).outcome find true (.render []) = .failed .uncompilable ∧
      runBy find { html := true } (broken ++ (true, .render []) :: mended) =
        [.done, .done, .done, .failed .uncompilable, .done, .shown "is &lt;a&gt;"] ∧
      runBy find { html := true } (broken ++ mended) =
        [.done, .done, .done, .done, .shown "is &lt;a&gt;"] := by
  intro find broken mended
  have hfind : find.Documented := Template.Registry.find_documented
  have hfailed : (Known.ofSteps broken).outcome find true (.render []) = .failed .uncompilable :=
    rfl
  have hbroken : runBy find { html := true } broken = [.done, .done, .done] := by
    decide +kernel
  have hmended : runBy find { html := true } (broken ++ mended) =
      [.done, .done, .done] ++ [.done, .shown "is &lt;a&gt;"] := by
    decide +kernel
  obtain ⟨-, outcomes, hall, hwithout⟩ := never_stale hfind true broken mended true (.render [])
  have houtcomes := hwithout (.inl ⟨_, hfailed⟩)
  rw [hmended, hbroken] at houtcomes
  have hrest : outcomes = [.done, .shown "is &lt;a&gt;"] := (List.append_cancel_left houtcomes).symm
  rw [hall, hbroken, hfailed, hrest]
  exact ⟨hfind, rfl, rfl, hmended⟩

end TemplateDrill

end IncidentRelay
