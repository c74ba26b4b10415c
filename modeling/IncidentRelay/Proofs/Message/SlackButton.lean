import IncidentRelay.Proofs.Json.Inside
import IncidentRelay.Proofs.Message.Delivery

/-!
# The acknowledge button of Slack messages

A message for Slack is read as a person sees it: the text that it shows, its colours, and where its
buttons lead. The link of an incident moves into a button only while the incident is unresolved and
buttons are wanted; then the template does not get to see it, so that what the message says is the
same for every link.

## Main statements

* `Slack.view_message`: how the message for an incident looks.
* `Slack.shownContent_of_button`: with a button, incidents that differ in their links alone show
  the template the same content.
* `Slack.link_in_one_place`: a link is offered by a button or shown to the template, never both.
-/

namespace IncidentRelay

open Json (Value)

namespace Slack

/-! ### How a message looks -/

/-- The buttons of a message, wherever they are. -/
def buttons (m : Value) : List Value :=
  m.within.filter fun v => v.step? (.member "type") = some (.string "button")

/-- What colours a message, wherever that is. -/
def colors (m : Value) : List Value := m.within.filterMap fun v => v.step? (.member "color")

/-- The text that a message shows: that of the attachment, or that of its first block. -/
def shownText? (m : Value) : Option Value :=
  (m.at? [.member "attachments", .item 0, .member "text"]).or
    (m.at? [.member "attachments", .item 0, .member "blocks", .item 0, .member "text",
      .member "text"])

/-- How a message looks. -/
structure View where
  text : Option Value
  colors : List Value
  /-- Where each button leads, and what it reports. -/
  buttons : List (Option Value × Option Value)
  deriving DecidableEq

/-- Reads how a message looks. -/
def view (m : Value) : View where
  text := shownText? m
  colors := colors m
  buttons := (buttons m).map fun b => (b.step? (.member "url"), b.step? (.member "value"))

/-- A text in a colour, with no button. -/
def View.plain (color text : String) : View := ⟨some (.string text), [.string color], []⟩

/-- A text with a button that leads to an address and reports an incident. -/
def View.withButton (url incident text : String) : View :=
  ⟨some (.string text), [.string unresolvedColor], [(some (.string url), some (.string incident))]⟩

@[simp] theorem view_plainMessage (settings : Settings.Slack) (text color : String) :
    view (plainMessage settings text color) = .plain color text := by
  simp [view, View.plain, plainMessage, shownText?, colors, buttons, Value.at?, Value.step?,
    Value.within, Value.withinItems, Value.withinFields, Table.get?]

@[simp] theorem view_buttonMessage (settings : Settings.Slack) (text url incident : String) :
    view (buttonMessage settings text url incident) = .withButton url incident text := by
  simp [view, View.withButton, buttonMessage, shownText?, colors, buttons, Value.at?, Value.step?,
    Value.within, Value.withinItems, Value.withinFields, Table.get?]

/-- How the message for an incident looks. -/
theorem view_message (settings : Settings.Slack) (i : Incident) (text : String) :
    view (message settings i text) =
      match i.resolved, i.ackUrl?, settings.button.enabled with
      | true, _, _ => .plain resolvedColor text
      | false, some url, true => .withButton url i.id text
      | false, _, _ => .plain unresolvedColor text := by
  unfold message
  cases i.resolved with
  | true => exact view_plainMessage ..
  | false =>
      cases i.ackUrl? with
      | none => exact view_plainMessage ..
      | some url =>
          cases settings.button.enabled with
          | false => exact view_plainMessage ..
          | true => exact view_buttonMessage ..

/-! ### What the template gets to see -/

section
variable {settings : Settings.Slack} {i : Incident}

/-- With a button, the text is rendered without the link. -/
theorem shownContent_of_button {url : String} (hopen : i.resolved = false)
    (hurl : i.ackUrl? = some url) (hbutton : settings.button.enabled = true) :
    shownContent settings i = Table.erase i.content ackUrlKey := by
  simp only [shownContent, hopen, hurl, hbutton]

/-- Without a button, the text is rendered from the whole content. -/
theorem shownContent_of_no_button
    (h : i.resolved = true ∨ i.ackUrl? = none ∨ settings.button.enabled = false) :
    shownContent settings i = i.content := by
  unfold shownContent
  split
  · next hopen hurl hbutton => simp_all
  · rfl

/-- What is left of a content without its link is shown as it is. -/
theorem shownContent_erase (settings : Settings.Slack) (i : Incident) :
    shownContent settings { i with content := Table.erase i.content ackUrlKey } =
      Table.erase i.content ackUrlKey := by
  refine shownContent_of_no_button (.inr (.inl ?_))
  simp [Incident.ackUrl?, Table.get?_erase]

end

/-! ### Payloads -/

section
variable (render : Content → Except TemplateError String) (settings : Settings.Slack)

/-- How a payload looks is how the message with the rendered text looks. -/
theorem map_view_payload (i : Incident) :
    (payload render settings i).map view =
      (render (shownContent settings i)).map fun text => view (message settings i text) := by
  rw [payload_eq]
  cases render (shownContent settings i) <;> rfl

/-- A payload shows the rendered text. -/
theorem map_shownText_payload (i : Incident) :
    (payload render settings i).map shownText? =
      (render (shownContent settings i)).map fun text => some (.string text) := by
  have htext (text : String) : shownText? (message settings i text) = some (.string text) := by
    have hview := congrArg View.text (view_message settings i text)
    refine hview.trans ?_
    cases i.resolved <;> cases i.ackUrl? <;> cases settings.button.enabled <;> rfl
  rw [payload_eq]
  cases render (shownContent settings i) with
  | error e => rfl
  | ok text => exact congrArg Except.ok (htext text)

/-- There is no payload exactly if the text cannot be rendered. -/
theorem payload_eq_error_iff (i : Incident) (e : TemplateError) :
    payload render settings i = .error e ↔ render (shownContent settings i) = .error e := by
  rw [payload_eq]
  cases render (shownContent settings i) <;> simp [Except.map]

end

/-- The message for a resolved incident is in the colour of these and has no button, whatever its
content holds. The message for an unresolved incident with a link has, if buttons are wanted, a
button with this link that reports the incident, and shows the text for the content without the
link: for incidents that differ in their links alone that is one text, and the incident without a
link has it too. Every other message shows the text for the whole content and has no button. There
is no message exactly if the text cannot be rendered, and then nothing is sent. -/
theorem link_in_one_place (files : Files) (template : MessageTemplate) (settings : Settings.Slack)
    (i : Incident) :
    let render := template.render files
    let built := payload render settings
    let linkless := Table.erase i.content ackUrlKey
    (i.resolved = true →
      (built i).map view = (render i.content).map (.plain resolvedColor)) ∧
    (∀ url, i.resolved = false → i.ackUrl? = some url → settings.button.enabled = true →
      (built i).map view = (render linkless).map (.withButton url i.id) ∧
      (∀ j other, j.resolved = false → j.ackUrl? = some other →
        Table.erase j.content ackUrlKey = linkless →
        (built j).map shownText? = (built i).map shownText?) ∧
      (built { i with content := linkless }).map shownText? = (built i).map shownText?) ∧
    (i.resolved = false → i.ackUrl? = none ∨ settings.button.enabled = false →
      (built i).map view = (render i.content).map (.plain unresolvedColor)) ∧
    (∀ e, built i = .error e ↔ render (shownContent settings i) = .error e) ∧
    (∀ e, built i = .error e → ∀ (σ : Type) (wire : Wire σ) (s : σ),
      (Channel.slack settings template).deliver wire files i s =
        (.error (templateFailed e), s)) := by
  intro render built linkless
  refine ⟨?resolved, ?button, ?plain, payload_eq_error_iff render settings i, ?unsent⟩
  case resolved =>
    intro hresolved
    simp only [built, map_view_payload, view_message, hresolved,
      shownContent_of_no_button (.inl hresolved)]
  case button =>
    intro url hopen hurl hbutton
    have hshown := shownContent_of_button hopen hurl hbutton
    refine ⟨?_, ?_, ?_⟩
    · simp only [built, map_view_payload, view_message, hshown, hopen, hurl, hbutton, linkless]
    · intro j other hjopen hjurl hj
      simp only [built, map_shownText_payload, hshown, shownContent_of_button hjopen hjurl hbutton,
        hj, linkless]
    · simp only [built, map_shownText_payload, hshown, linkless, shownContent_erase]
  case plain =>
    intro hopen hnone
    simp only [built, map_view_payload, view_message, hopen,
      shownContent_of_no_button (.inr hnone)]
    rcases hnone with hurl | hbutton
    · simp only [hurl]
    · cases i.ackUrl? <;> simp only [hbutton]
  case unsent =>
    intro e hbuilt σ wire s
    have hrender : template.render files (shownContent settings i) = .error e :=
      (payload_eq_error_iff render settings i e).mp hbuilt
    refine Channel.deliver_of_error wire ?_ s
    simp only [Channel.delivery_eq, Channel.template, Channel.shownContent, hrender]

/-- An unresolved incident whose link goes into the button, and not into the text. -/
theorem link_in_one_place_disk_full :
    let template : MessageTemplate := .compiled
      ⟨false, [(Template.Piece.field "message").element, .text [' ', 'a', 't', ' '],
        (Template.Piece.field "AckURL").element]⟩
    let settings : Settings.Slack := { button := { enabled := true } }
    let i : Incident :=
      { id := "7", team := "", resolved := false
        content := [("AckURL", .string "http://h/ack/7"), ("message", .string "disk full")] }
    i.ackUrl? = some "http://h/ack/7" ∧
      (payload (template.render []) settings i).map view =
        .ok (.withButton "http://h/ack/7" "7" "disk full at ") := by
  intro template settings i
  have hrender : template.render [] (Table.erase i.content ackUrlKey) = .ok "disk full at " := by
    decide +kernel
  have hview := ((link_in_one_place [] template settings i).2.1 "http://h/ack/7" rfl rfl rfl).1
  refine ⟨rfl, ?_⟩
  rw [hview, hrender]
  rfl

end Slack

end IncidentRelay
