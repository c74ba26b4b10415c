import IncidentRelay.Proofs.Message.Parts
import IncidentRelay.Template.Shipped

/-!
# What the shipped templates can show

The templates that come with the service are made of parts, so it can be told for which contents
they can be rendered. A title, a message and an acknowledgment link of any type are shown. The block
for the severity is left out if the severity is missing or counts as false; otherwise the severity
is put in capitals, which needs a text. A content with a number for its severity cannot be rendered.

## Main statements

* `compile_form`: the shipped templates compile to their parts.
* `renders_iff`: a shipped template can be rendered if the severity is a text, or counts as false.
-/

namespace IncidentRelay.Template

open Json (Value)

/-- Whether the severity of a content can be shown, if it is shown at all. -/
def SeverityFits (content : Content) : Prop :=
  truthy false (member content "severity") = true → ∃ s, member content "severity" = .string s

namespace Shipped

/-! ### The parts of the templates -/

/-- A template that comes with the service. -/
structure Form where
  /-- Whether the messages of its channel are HTML. -/
  html : Bool
  text : String
  /-- What the template is made of. -/
  parts : List Part

/-- A text of a template. -/
def words (s : String) : Part := .always (.text s.toList)

/-- The title of a message. -/
def title : Part := .always (.titled "title" "Incident")

/-- A block for a member, with texts around it. -/
def blockOf (name : String) (before after : List Piece) : Part :=
  .whenTrue name (before ++ .field name :: after)

/-- The block for the severity, with texts around it. -/
def severity (before after : String) : Part :=
  .whenTrue "severity" [.text before.toList, .capitals "severity", .text after.toList]

/-- The block for the acknowledgment link, with texts around it. -/
def link (before after : String) : Part :=
  blockOf "AckURL" [.text before.toList] [.text after.toList]

/-- The message with a line to itself. -/
def messageLine : Part := blockOf "message" [] [.text ['\n']]

def slackForm : Form :=
  ⟨false, slack, [words "*", title, words "*\n", messageLine, severity "Severity: `" "`\n",
    link "<" "|Acknowledge>\n"]⟩

def telegramForm : Form :=
  ⟨true, telegram, [words "<b>", title, words "</b>\n", messageLine,
    severity "Severity: <code>" "</code>\n", link "<a href=\"" "\">Acknowledge</a>\n"]⟩

def emailForm : Form :=
  ⟨true, email, [words "<h2>", title, words "</h2>\n",
    blockOf "message" [.text "<p>".toList] [.text "</p>".toList], words "\n",
    severity "<p>Severity: <strong>" "</strong></p>", words "\n",
    link "<p><a href=\"" "\">Acknowledge this incident</a></p>", words "\n<pre>", .always .whole,
    words "</pre>\n"]⟩

def teamsForm : Form :=
  ⟨false, msteams, [words "**", title, words "**\n", messageLine, severity "Severity: " "\n",
    link "[Acknowledge](" ")\n"]⟩

def larkForm : Form :=
  ⟨false, lark, [words "# ", title, words "\n", messageLine, severity "Severity: " "\n",
    link "Acknowledge: " "\n"]⟩

/-- The templates of all channels. -/
def forms : List Form := [slackForm, telegramForm, emailForm, teamsForm, larkForm]

/-- Whether the text of a form is read as its parts. -/
def Form.Reads (f : Form) : Prop :=
  (parse f.text.toList).bind (·.mapM Part.of?) = some f.parts

/-- A tag in characters. -/
theorem toList_tag (s : String) : (tag s).toList = '{' :: '{' :: (s.toList ++ ['}', '}']) := by
  simp only [tag, String.toList_append]
  rfl

-- The texts are taken apart first: decoding a joined text costs far more than reading it.
/-- The Slack template is read as its form. -/
theorem slackForm_reads : slackForm.Reads := by
  unfold Form.Reads slackForm slack
  simp only [String.toList_append, toList_tag]
  decide +kernel

/-- The Telegram template is read as its form. -/
theorem telegramForm_reads : telegramForm.Reads := by
  unfold Form.Reads telegramForm telegram
  simp only [String.toList_append, toList_tag]
  decide +kernel

/-- The mail template is read as its form. -/
theorem emailForm_reads : emailForm.Reads := by
  unfold Form.Reads emailForm email
  simp only [String.toList_append, toList_tag]
  decide +kernel

/-- The Teams template is read as its form. -/
theorem teamsForm_reads : teamsForm.Reads := by
  unfold Form.Reads teamsForm msteams
  simp only [String.toList_append, toList_tag]
  decide +kernel

/-- The Lark template is read as its form. -/
theorem larkForm_reads : larkForm.Reads := by
  unfold Form.Reads larkForm lark
  simp only [String.toList_append, toList_tag]
  decide +kernel

/-- Every template that comes with the service is read as its form. -/
theorem reads_of_mem {f : Form} (h : f ∈ forms) : f.Reads := by
  simp only [forms, List.mem_cons, List.not_mem_nil, or_false] at h
  rcases h with rfl | rfl | rfl | rfl | rfl
  · exact slackForm_reads
  · exact telegramForm_reads
  · exact emailForm_reads
  · exact teamsForm_reads
  · exact larkForm_reads

/-- The template of a form. -/
def Form.template (f : Form) : Template := ⟨f.html, f.parts.map Part.element⟩

/-- Every template that comes with the service compiles to its form. -/
theorem compile_form {f : Form} (h : f ∈ forms) :
    Template.compile f.html f.text = .ok f.template := by
  obtain ⟨elements, hparse, hparts⟩ := Option.bind_eq_some_iff.mp (reads_of_mem h)
  simp only [Template.compile, hparse, Form.template, eq_map_of_mapM Part.of?_sound hparts]

/-! ### Contents that can be shown -/

/-- The forms hold nothing but plain parts. -/
theorem plain_of_mem {f : Form} (h : f ∈ forms) : f.parts.all Part.isPlain = true := by
  revert f
  decide +kernel

/-- Only the block for the severity asks for a member of a certain type. -/
theorem fits_iff {f : Form} (h : f ∈ forms) (content : Content) :
    f.parts.all (Part.fits content) = true ↔ SeverityFits content := by
  have hseverity : f.parts.all (Part.fits content) =
      (!truthy false (member content "severity") ||
        (member content "severity").asString?.isSome) := by
    simp only [forms, List.mem_cons, List.not_mem_nil, or_false] at h
    rcases h with rfl | rfl | rfl | rfl | rfl <;>
      simp [slackForm, telegramForm, emailForm, teamsForm, larkForm, words, title, messageLine,
        link, severity, blockOf, Part.fits, Piece.fits]
  rw [hseverity]
  unfold SeverityFits
  cases truthy false (member content "severity") <;> cases member content "severity" <;>
    simp [Value.asString?]

/-- A shipped template can be rendered if the severity can be shown. -/
theorem renders_iff {f : Form} (h : f ∈ forms) (content : Content) :
    ((∃ text, f.template.render content = .ok text) ↔ SeverityFits content) ∧
      (¬ SeverityFits content → f.template.render content = .error .unrenderable) := by
  obtain ⟨hok, hfail⟩ := render_ok_iff (t := f.template) rfl (plain_of_mem h) content
  rw [← fits_iff h content]
  exact ⟨hok, fun hunfit => hfail (Bool.eq_false_iff.mpr hunfit)⟩

end Shipped

end IncidentRelay.Template
