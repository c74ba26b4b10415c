import IncidentRelay.Channel.Build
import IncidentRelay.Dispatch
import IncidentRelay.Escalation.World
import IncidentRelay.Proofs.Message.Shipped

/-!
# Contents that a dispatch can deliver

A channel renders its template for the content of an incident and packs the text for its service. A
channel that is ready has the template that comes with the service, can pack every text, and talks
to a service that takes what it gets. Then all depends on the content: a dispatch over such channels
succeeds if the severity can be shown, and otherwise the first channel fails before anything is
sent.

## Main statements

* `Channel.delivery_eq`: a delivery is a rendered text that is packed.
* `Channel.dispatch_by_severity`: the severity alone decides what becomes of a dispatch.
-/

namespace IncidentRelay

open Template (SeverityFits)

/-! ### Rendering and packing -/

namespace Slack

/-- The content that the template gets: a link that goes into the button is left out. -/
def shownContent (settings : Settings.Slack) (i : Incident) : Content :=
  match i.resolved, i.ackUrl?, settings.button.enabled with
  | false, some _, true => Table.erase i.content ackUrlKey
  | _, _, _ => i.content

/-- The message that carries a text. -/
def message (settings : Settings.Slack) (i : Incident) (text : String) : Json.Value :=
  match i.resolved, i.ackUrl?, settings.button.enabled with
  | true, _, _ => plainMessage settings text resolvedColor
  | false, some url, true => buttonMessage settings text url i.id
  | false, _, _ => plainMessage settings text unresolvedColor

/-- A Slack message is what its text, rendered from what is shown, looks like. -/
theorem payload_eq (render : Content → Except TemplateError String) (settings : Settings.Slack)
    (i : Incident) :
    payload render settings i = (render (shownContent settings i)).map (message settings i) := by
  unfold payload shownContent message
  cases i.resolved with
  | true => rfl
  | false => cases i.ackUrl? <;> cases settings.button.enabled <;> rfl

end Slack

namespace Channel

/-- The template of a channel. -/
def template : Channel → MessageTemplate
  | slack _ t | telegram _ t | email _ t | teams _ t | lark _ t => t

/-- The content that the template of a channel gets. -/
def shownContent (c : Channel) (i : Incident) : Content :=
  match c with
  | slack s _ => Slack.shownContent s i
  | telegram .. | email .. | teams .. | lark .. => i.content

/-- What a channel makes of a rendered text. -/
def pack (c : Channel) (i : Incident) (text : String) : Except ChannelError Delivery :=
  match c with
  | slack s _ =>
    post (dropSlashes s.apiUrl ++ "/chat.postMessage") (some ("Bearer " ++ s.token))
      (Slack.message s i text)
  | telegram s _ =>
    post (dropSlashes s.apiUrl ++ "/bot" ++ s.botToken ++ "/sendMessage") none
      (.object [("chat_id", .string s.chatId), ("parse_mode", .string "HTML"),
        ("text", .string text)])
  | email s _ => (mailSession s text).map .mail
  | teams s _ => post s.url none (teamsBody s.url text i.content)
  | lark s _ => post s.webhookUrl none (Post.ofText i.resolved text).toJson

/-- A delivery is the packed text of what is shown, if the template can be rendered. -/
theorem delivery_eq (files : Files) (c : Channel) (i : Incident) :
    c.delivery files i =
      match c.template.render files (c.shownContent i) with
      | .ok text => c.pack i text
      | .error e => .error (templateFailed e) := by
  cases c with
  | slack s t =>
      simp only [delivery, template, shownContent, pack, Slack.payload_eq]
      cases t.render files (Slack.shownContent s i) <;>
        simp only [Except.map, orFail, bind, Except.bind]
  | telegram s t | email s t | teams s t | lark s t =>
      simp only [delivery, template, shownContent, pack]
      cases t.render files i.content <;> simp only [orFail, bind, Except.bind]

/-- What the template gets has the severity of the incident. -/
theorem severityFits_shownContent (c : Channel) (i : Incident) :
    SeverityFits (c.shownContent i) ↔ SeverityFits i.content := by
  have herase : Template.member (Table.erase i.content ackUrlKey) "severity" =
      Template.member i.content "severity" := by
    simp only [Template.member, Table.get?_erase]
    rfl
  cases c with
  | slack s t =>
      simp only [shownContent, Slack.shownContent]
      split
      · simp only [SeverityFits, herase]
      · exact Iff.rfl
  | telegram | email | teams | lark => exact Iff.rfl

/-! ### Channels with the shipped templates -/

/-- The shipped template of a channel. -/
def form : Channel → Template.Shipped.Form
  | slack .. => Template.Shipped.slackForm
  | telegram .. => Template.Shipped.telegramForm
  | email .. => Template.Shipped.emailForm
  | teams .. => Template.Shipped.teamsForm
  | lark .. => Template.Shipped.larkForm

/-- Every channel has one of the forms that come with the service. -/
theorem form_mem (c : Channel) : c.form ∈ Template.Shipped.forms := by
  cases c <;> simp [form, Template.Shipped.forms]

/-- Whether a channel renders a file with its shipped template. -/
def IsShipped (files : Files) (c : Channel) : Prop :=
  ∃ path, c.template.OfFile c.form.html path ∧ files.read? path = some c.form.text

/-- A shipped template shows a content if it can show its severity. -/
theorem IsShipped.render {files : Files} {c : Channel} (h : c.IsShipped files) (content : Content) :
    ((∃ text, c.template.render files content = .ok text) ↔ SeverityFits content) ∧
      (¬ SeverityFits content → c.template.render files content = .error .unrenderable) := by
  obtain ⟨path, htemplate, hread⟩ := h
  have hcompiled : Template.compileFile files c.form.html path = .ok c.form.template := by
    simp only [Template.compileFile, hread, Template.Shipped.compile_form c.form_mem]
  have hrender : c.template.render files content = c.form.template.render content := by
    rw [MessageTemplate.render, htemplate.renderBy_eq Template.Registry.find_documented, hcompiled]
  rw [hrender]
  exact Template.Shipped.renders_iff c.form_mem content

/-- A channel with its shipped template that can pack every text, and whose service takes what the
channel makes. -/
structure Ready {σ : Type} (wire : Wire σ) (files : Files) (c : Channel) : Prop where
  shipped : c.IsShipped files
  configured : ∀ i text, ∃ d, c.pack i text = .ok d
  accepted : ∀ i d s, c.delivery files i = .ok d → (c.send wire d s).1 = .ok ()

variable {σ : Type} {wire : Wire σ} {files : Files} {c : Channel}

/-- A channel that is ready delivers what fits. -/
theorem Ready.deliver_of_fits (h : c.Ready wire files) {i : Incident}
    (hfits : SeverityFits i.content) (s : σ) : (c.deliver wire files i s).1 = .ok () := by
  obtain ⟨text, htext⟩ :=
    (h.shipped.render (c.shownContent i)).1.mpr ((c.severityFits_shownContent i).mpr hfits)
  obtain ⟨d, hd⟩ := h.configured i text
  have hdelivery : c.delivery files i = .ok d := by rw [delivery_eq, htext, ← hd]
  simp only [deliver, hdelivery]
  exact h.accepted i d s hdelivery

/-- A channel that is ready does not deliver what does not fit, and sends nothing. -/
theorem Ready.deliver_of_unfit (h : c.Ready wire files) {i : Incident}
    (hunfit : ¬ SeverityFits i.content) (s : σ) :
    c.deliver wire files i s = (.error (templateFailed .unrenderable), s) := by
  have hrender := (h.shipped.render (c.shownContent i)).2
    (mt (c.severityFits_shownContent i).mp hunfit)
  exact deliver_of_error wire (by rw [delivery_eq, hrender]) s

end Channel

/-! ### Dispatch -/

section Dispatch

variable {σ : Type} {wire : Wire σ} {files : Files} {services : Services Channel σ}
  {channels : List Channel} {i : Incident}
  (hsend : ∀ now c i s, services.send now c i s = c.deliver wire files i s)
  (hready : ∀ c ∈ channels, c.Ready wire files)

include hsend hready

/-- An incident that fits reaches all channels. -/
theorem dispatch_of_fits (hfits : SeverityFits i.content) (w : World σ) :
    (World.perform services (dispatch Channel.name i channels) w).1 = .ok () := by
  induction channels generalizing w with
  | nil => rfl
  | cons c rest ih =>
      obtain ⟨hc, hrest⟩ := List.forall_mem_cons.mp hready
      have hdelivered := hc.deliver_of_fits hfits w.outside
      rw [← hsend w.now] at hdelivered
      simp only [World.perform, dispatch, Process.run, World.answer, hdelivered]
      exact ih hrest _

/-- An incident that does not fit fails at the first channel, and nothing is sent. -/
theorem dispatch_of_unfit (hunfit : ¬ SeverityFits i.content) {c : Channel} {rest : List Channel}
    (hchannels : channels = c :: rest) (w : World σ) :
    let ran := World.perform services (dispatch Channel.name i channels) w
    ran.1 = .error ⟨c.name, templateFailed .unrenderable⟩ ∧ ran.2.outside = w.outside := by
  subst hchannels
  have hc := hready c List.mem_cons_self
  simp only [World.perform, dispatch, Process.run, World.answer, hsend,
    hc.deliver_of_unfit hunfit]
  exact ⟨trivial, trivial⟩

end Dispatch

/-- The shipped templates compile, and each of them can be rendered for just those contents whose
severity is a text or counts as false. So a dispatch over ready channels succeeds for these, and for
no other content gets past its first channel. -/
theorem Channel.dispatch_by_severity {σ : Type} (wire : Wire σ) (files : Files)
    (services : Services Channel σ)
    (hsend : ∀ now c i s, services.send now c i s = c.deliver wire files i s)
    (channels : List Channel) (hready : ∀ c ∈ channels, c.Ready wire files) :
    (∀ f ∈ Template.Shipped.forms, Template.compile f.html f.text = .ok f.template ∧
      ∀ content, (∃ text, f.template.render content = .ok text) ↔ SeverityFits content) ∧
    ∀ (i : Incident) (w : World σ),
      let ran := World.perform services (dispatch Channel.name i channels) w
      (SeverityFits i.content → ran.1 = .ok ()) ∧
        (¬ SeverityFits i.content → ∀ c rest, channels = c :: rest →
          ran.1 = .error ⟨c.name, templateFailed .unrenderable⟩ ∧
            ran.2.outside = w.outside) := by
  refine ⟨fun f hf => ⟨Template.Shipped.compile_form hf, fun content =>
    (Template.Shipped.renders_iff hf content).1⟩, ?_⟩
  intro i w
  exact ⟨fun hfits => dispatch_of_fits hsend hready hfits w,
    fun hunfit c rest hchannels => dispatch_of_unfit hsend hready hunfit hchannels w⟩

/-- A severity that is a number does not fit. -/
theorem numeric_severity_unfit : ¬ SeverityFits [("severity", .nat 3)] := by
  intro hfits
  obtain ⟨s, hs⟩ := hfits rfl
  exact nomatch hs

/-- A mail server and web services that take everything. -/
def Wire.accepting : Wire Unit where
  exchange _ s := (.reply {}, s)
  submit _ s := (.ok (), s)

/-- A channel for Lark with its shipped template. -/
def larkChannel : Channel :=
  .lark { enable := true, webhookUrl := "http://h/hook", templatePath := "templates/lark.hbs" }
    (.loaded Template.Shipped.larkForm.template "templates/lark.hbs")

/-- A Lark channel with the template that comes with the service is ready. -/
theorem larkChannel_ready : larkChannel.Ready Wire.accepting Template.Shipped.files where
  shipped := by
    have hpath : normalPath? "templates/lark.hbs" = some "templates/lark.hbs" := by decide +kernel
    have hget : Table.get? Template.Shipped.files "templates/lark.hbs" =
        some Template.Shipped.lark := by
      rw [Template.Shipped.files, Table.get?, if_neg (by decide), Table.get?, if_pos rfl]
    have hread : Template.Shipped.files.read? "templates/lark.hbs" =
        some Template.Shipped.lark := by
      rw [Files.read?, hpath, Option.bind_some, hget]
    exact ⟨"templates/lark.hbs", MessageTemplate.loaded_ofFile _ _, hread⟩
  configured i text := by
    have haddress : (Http.Address.read "http://h/hook").isOk = true := by decide +kernel
    simp only [larkChannel, Channel.pack, Channel.post, Http.Request.post]
    cases h : Http.Address.read "http://h/hook" with
    | error e => simp [h, Except.isOk, Except.toBool] at haddress
    | ok address => exact ⟨_, rfl⟩
  accepted i d s _ := by cases d <;> rfl

/-- A text for the severity is delivered, a number is not. -/
theorem Channel.dispatch_by_severity_lark :
    let services : Services Channel Unit :=
      { put := fun _ _ _ _ s => (.ok (), s), present := fun _ _ s => (.ok false, s)
        remove := fun _ _ s => (.ok false, s), page := fun _ _ _ s => (.ok (), s)
        send := fun _ c i s => c.deliver Wire.accepting Template.Shipped.files i s }
    let dispatched (severity : Json.Value) :=
      (World.perform services (dispatch Channel.name
        { id := "x", team := "", content := [("severity", severity)], resolved := false }
        [larkChannel]) { outside := () }).1
    dispatched (.string "high") = .ok () ∧
      dispatched (.nat 3) = .error ⟨"lark", .template "the template does not fit the content"⟩ := by
  have hready : ∀ c ∈ [larkChannel], c.Ready Wire.accepting Template.Shipped.files := by
    intro c hc
    rw [List.mem_singleton.mp hc]
    exact larkChannel_ready
  intro services dispatched
  have hdispatch := fun severity => (Channel.dispatch_by_severity Wire.accepting
    Template.Shipped.files services (fun _ _ _ _ => rfl) [larkChannel] hready).2
    { id := "x", team := "", content := [("severity", severity)], resolved := false }
    { outside := () }
  refine ⟨(hdispatch (.string "high")).1 fun _ => ⟨"high", rfl⟩,
    ((hdispatch (.nat 3)).2 numeric_severity_unfit larkChannel [] rfl).1⟩

/-- A number for the severity is more than the template for Slack can show. -/
theorem Template.Shipped.numeric_severity_unrenderable :
    Template.compile false Template.Shipped.slack = .ok Template.Shipped.slackForm.template ∧
      Template.Shipped.slackForm.template.render [("severity", .nat 3)] =
        .error .unrenderable := by
  have hslack : slackForm ∈ forms := by simp [forms]
  have htext : slackForm.text = slack := rfl
  have hcompile := compile_form hslack
  rw [htext] at hcompile
  exact ⟨hcompile, (renders_iff hslack _).2 numeric_severity_unfit⟩

end IncidentRelay
