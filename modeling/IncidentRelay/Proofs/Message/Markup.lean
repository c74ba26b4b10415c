import IncidentRelay.Proofs.Message.Shipped
import Mathlib.Data.List.Basic

/-!
# Markup of HTML messages

Telegram and mail get HTML. Whatever a payload says is escaped when it is shown, after all helpers
have run, so the angle brackets and the quotation marks of a message are those of the template's own
text. Which of them are shown is up to the blocks that are taken, and so to whether three members of
the content count as true, and to nothing else in it.

## Main statements

* `markup_present`: a value that is shown in HTML has no markup.
* `markup_render`: the markup of a message is that of the text of its template.
* `Shipped.markup_of_message`: this for the templates of Telegram and mail.
-/

namespace IncidentRelay.Template

open Json (Value)

/-! ### Markup -/

/-- Whether a character can begin or end a tag or the value of an attribute. -/
def isMarkup (c : Char) : Bool := c = '<' || c = '>' || c = '"'

/-- The markup of a text, in order. -/
def markup (s : List Char) : List Char := s.filter isMarkup

@[simp] theorem markup_append (s t : List Char) : markup (s ++ t) = markup s ++ markup t :=
  List.filter_append ..

/-- What is escaped has no markup. -/
theorem markup_escapeHtml (c : Char) : markup (escapeHtml c) = [] := by
  unfold escapeHtml
  split
  case h_8 hlt hgt hquote _ _ _ _ =>
    have hnone : isMarkup c = false := by
      simp only [isMarkup, Bool.or_eq_false_iff, decide_eq_false_iff_not]
      exact ⟨⟨hlt, hgt⟩, hquote⟩
    simp [markup, hnone]
  all_goals rfl

/-- A value that is shown in HTML has no markup. -/
theorem markup_present (v : Value) : markup (present true v) = [] := by
  have hescaped (s : List Char) : markup (s.flatMap escapeHtml) = [] := by
    induction s with
    | nil => rfl
    | cons c rest ih =>
        rw [List.flatMap_cons, markup_append, markup_escapeHtml, ih, List.nil_append]
  exact hescaped (plainText v)

/-! ### The text of a template -/

/-- Whether a member of a content counts as true. -/
def counts (content : Content) (name : String) : Bool := truthy false (member content name)

/-- The text of a template in a piece. -/
def Piece.literal : Piece → List Char
  | .text s => s
  | .field _ | .capitals _ | .titled _ _ | .whole => []

/-- The text of a template in a part, without a block that is not taken. -/
def Part.literal (taken : String → Bool) : Part → List Char
  | .always p => p.literal
  | .whenTrue name body => if taken name then body.flatMap Piece.literal else []

/-- The member that decides whether a block is taken. -/
def Part.condition? : Part → Option String
  | .always _ => none
  | .whenTrue name _ => some name

variable {content : Content} {text : List Char}

/-- A piece shows no markup but its own. -/
theorem Piece.markup_shown {p : Piece} (h : p.shown? true content = some text) :
    markup text = markup p.literal := by
  cases p with
  | text s =>
      obtain rfl := Option.some.inj h
      rfl
  | field name =>
      obtain rfl := Option.some.inj h
      exact markup_present _
  | capitals name =>
      obtain ⟨s, -, rfl⟩ := Option.map_eq_some_iff.mp h
      exact markup_present _
  | titled name fallback =>
      obtain rfl := Option.some.inj h
      exact markup_present _
  | whole =>
      obtain rfl := Option.some.inj h
      exact markup_present _

/-- What is shown one after the other has the markup of what it is shown from. -/
theorem markup_showAll {α : Type} {show_ : α → Option (List Char)} {literal : α → List Char}
    (hshow : ∀ {a text}, show_ a = some text → markup text = markup (literal a)) {parts : List α}
    (h : showAll? show_ parts = some text) : markup text = markup (parts.flatMap literal) := by
  induction parts generalizing text with
  | nil =>
      obtain rfl := Option.some.inj h
      rfl
  | cons a rest ih =>
      unfold showAll? at h
      split at h
      · next first others hfirst hothers =>
          obtain rfl := Option.some.inj h
          rw [List.flatMap_cons, markup_append, markup_append, hshow hfirst, ih hothers]
      · exact nomatch h

/-- A part shows no markup but its own. -/
theorem Part.markup_shown {p : Part} (h : p.shown? true content = some text) :
    markup text = markup (p.literal (counts content)) := by
  cases p with
  | always piece => exact piece.markup_shown h
  | whenTrue name body =>
      rw [shown?, ← counts] at h
      rw [literal]
      cases htaken : counts content name with
      | true =>
          rw [htaken, if_pos rfl] at h
          exact markup_showAll Piece.markup_shown h
      | false =>
          rw [htaken] at h
          obtain rfl := Option.some.inj h
          rfl

/-- The markup of an HTML message is that of the text of its template. -/
theorem markup_render {t : Template} {parts : List Part} (hhtml : t.html = true)
    (hparts : t.elements = parts.map Part.element) (hplain : parts.all Part.isPlain = true)
    {out : String} (h : t.render content = .ok out) :
    markup out.toList = markup (parts.flatMap (Part.literal (counts content))) := by
  rw [render_of_parts hparts hplain, hhtml] at h
  split at h
  · next text hshown =>
      obtain rfl := Except.ok.inj h
      rw [String.toList_ofList]
      exact markup_showAll Part.markup_shown hshown
  · exact nomatch h

/-- Which blocks are taken is up to the members that decide on them. -/
theorem literal_congr {taken taken' : String → Bool} {parts : List Part}
    (h : ∀ name ∈ parts.filterMap Part.condition?, taken name = taken' name) :
    parts.flatMap (Part.literal taken) = parts.flatMap (Part.literal taken') := by
  refine List.flatMap_congr fun p hp => ?_
  cases p with
  | always piece => rfl
  | whenTrue name body =>
      have hname : name ∈ parts.filterMap Part.condition? :=
        List.mem_filterMap.mpr ⟨.whenTrue name body, hp, rfl⟩
      simp only [Part.literal, h name hname]

namespace Shipped

/-! ### The templates of Telegram and mail -/

/-- The channels whose messages are HTML, with their templates. -/
def htmlForms : List (String × Form) := [("telegram", telegramForm), ("email", emailForm)]

/-- The forms of markup languages are among the forms. -/
theorem mem_forms_of_html {channel : String} {f : Form} (h : (channel, f) ∈ htmlForms) :
    f ∈ forms := by
  simp only [htmlForms, List.mem_cons, List.not_mem_nil, or_false, Prod.mk.injEq] at h
  rcases h with ⟨-, rfl⟩ | ⟨-, rfl⟩ <;> simp [forms]

/-- The members that decide on the blocks of a template. -/
def conditions : List String := ["message", "severity", "AckURL"]

/-- The markup of a message for Telegram or by mail is that of the template's own text without the
blocks that are not taken. So contents have messages with the same markup if they agree on whether
the message, the severity and the acknowledgment link count as true. -/
theorem markup_of_message {channel : String} {f : Form} (h : (channel, f) ∈ htmlForms) :
    text? channel = some f.text ∧ Template.compile true f.text = .ok f.template ∧
      (∀ content out, f.template.render content = .ok out →
        markup out.toList = markup (f.parts.flatMap (Part.literal (counts content)))) ∧
      ∀ content content' out out', f.template.render content = .ok out →
        f.template.render content' = .ok out' →
        (∀ name ∈ conditions, counts content name = counts content' name) →
          markup out.toList = markup out'.toList := by
  have hform := mem_forms_of_html h
  obtain ⟨htext, hhtml, hconditions⟩ : text? channel = some f.text ∧ f.html = true ∧
      ∀ name ∈ f.parts.filterMap Part.condition?, name ∈ conditions := by
    simp only [htmlForms, List.mem_cons, List.not_mem_nil, or_false, Prod.mk.injEq] at h
    rcases h with ⟨rfl, rfl⟩ | ⟨rfl, rfl⟩
    · exact ⟨rfl, rfl, by decide⟩
    · exact ⟨rfl, rfl, by decide⟩
  have hmarkup {content : Content} {out : String} (hout : f.template.render content = .ok out) :
      markup out.toList = markup (f.parts.flatMap (Part.literal (counts content))) :=
    markup_render hhtml rfl (plain_of_mem hform) hout
  refine ⟨htext, by rw [← hhtml]; exact compile_form hform, fun _ _ => hmarkup, ?_⟩
  intro content content' out out' hout hout' hsame
  rw [hmarkup hout, hmarkup hout',
    literal_congr fun name hname => hsame name (hconditions name hname)]

/-- Tags and quotation marks in a payload do not come through, and the whole content at the end of a
mail has no markup. -/
theorem markup_of_message_forged :
    let content : Content :=
      [("AckURL", .string "\"><script>"), ("message", .string "<b>"), ("severity", .array [])]
    ∃ out, emailForm.template.render content = .ok out ∧
      String.ofList (markup out.toList) = "<><><><><><\"\"><><><><>" := by
  intro content
  have hfits : SeverityFits content := fun htrue => absurd htrue (by decide)
  obtain ⟨out, hout⟩ := (renders_iff (f := emailForm) (by simp [forms]) content).1.mpr hfits
  have hemail : ("email", emailForm) ∈ htmlForms := by simp [htmlForms]
  obtain ⟨-, -, hmarkup, -⟩ := markup_of_message hemail
  refine ⟨out, hout, ?_⟩
  rw [hmarkup content out hout]
  decide +kernel

end Shipped

end IncidentRelay.Template
