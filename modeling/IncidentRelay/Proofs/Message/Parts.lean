import IncidentRelay.Template.Basic

/-!
# Templates without loops

Most message templates say little: some text, some members of the content, and blocks that are shown
if a member counts as true. Such a template can be read as a list of parts, and what it shows for a
content can be told without scopes, defined pieces and helpers that call one another. Rendering such
a template fails only where a member is put in capitals that is no text.

## Main statements

* `Part.of?_sound`: a list of elements that is read as parts consists of these.
* `render_of_parts`: rendering a template is showing its parts one after the other.
* `render_ok_iff`: a template can be rendered if each of its parts can be shown.
-/

namespace IncidentRelay.Template

open Json (Value)

/-- What stands in a template without being a block. -/
inductive Piece
  | text (s : List Char)
  /-- A member of the content. -/
  | field (name : String)
  /-- A member of the content in capitals. -/
  | capitals (name : String)
  /-- A member of the content, or another text if it is missing or empty. -/
  | titled (name fallback : String)
  /-- The whole content as JSON. -/
  | whole
  deriving DecidableEq

/-- A piece, or a block of pieces that is shown if a member of the content counts as true. -/
inductive Part
  | always (p : Piece)
  | whenTrue (name : String) (body : List Piece)
  deriving DecidableEq

/-! ### Reading elements as parts -/

/-- A name as an operand. -/
def named (name : String) : Operand := .path ⟨name, [.name name]⟩

/-- The element of a piece. -/
def Piece.element : Piece → Element
  | .text s => .text s
  | .field name => .output true { callee := named name }
  | .capitals name => .output true { callee := .word "upper", arguments := [named name] }
  | .titled name fallback =>
    .output true
      { callee := .word "default", arguments := [named name, .literal (.string fallback)] }
  | .whole => .output true { callee := .word "json", arguments := [.path ⟨"this", []⟩] }

/-- The element of a part. -/
def Part.element : Part → Element
  | .always p => p.element
  | .whenTrue name body =>
    .block { callee := .word "if", arguments := [named name] } [] (body.map Piece.element) []

/-- The name that an operand is, if it is nothing else. -/
def Operand.named? : Operand → Option String
  | .path ⟨text, [.name name]⟩ => if text = name then some name else none
  | _ => none

/-- An element as a piece. -/
def Piece.of? : Element → Option Piece
  | .text s => some (.text s)
  | .output true ⟨.word helper, [.path ⟨"this", []⟩], []⟩ =>
    if helper = "json" then some .whole else none
  | .output true ⟨.word helper, [o], []⟩ =>
    if helper = "upper" then o.named?.map .capitals else none
  | .output true ⟨.word helper, [o, .literal (.string fallback)], []⟩ =>
    if helper = "default" then o.named?.map (.titled · fallback) else none
  | .output true ⟨o, [], []⟩ => o.named?.map .field
  | _ => none

/-- An element as a part. -/
def Part.of? : Element → Option Part
  | .block ⟨.word helper, [o], []⟩ [] body [] =>
    if helper = "if" then
      o.named?.bind fun name => (body.mapM Piece.of?).map (.whenTrue name)
    else none
  | e => (Piece.of? e).map .always

/-- An operand that names a member is the name of that member. -/
theorem Operand.eq_named {o : Operand} {name : String} (h : o.named? = some name) :
    o = named name := by
  unfold Operand.named? at h
  split at h
  · next text other =>
      split at h
      · next heq =>
          cases h
          rw [heq]
          rfl
      · exact nomatch h
  · exact nomatch h

/-- A piece read from an element stands for that element. -/
theorem Piece.of?_sound {e : Element} {p : Piece} (h : of? e = some p) : e = p.element := by
  unfold of? at h
  split at h
  · cases h
    rfl
  · split at h
    · next hhelper =>
        cases h
        rw [hhelper]
        rfl
    · exact nomatch h
  · split at h
    · next hhelper =>
        obtain ⟨name, hname, rfl⟩ := Option.map_eq_some_iff.mp h
        rw [hhelper, Operand.eq_named hname]
        rfl
    · exact nomatch h
  · split at h
    · next hhelper =>
        obtain ⟨name, hname, rfl⟩ := Option.map_eq_some_iff.mp h
        rw [hhelper, Operand.eq_named hname]
        rfl
    · exact nomatch h
  · obtain ⟨name, hname, rfl⟩ := Option.map_eq_some_iff.mp h
    rw [Operand.eq_named hname]
    rfl
  · exact nomatch h

/-- A reader that is right about each item is right about a list. -/
theorem eq_map_of_mapM {α β : Type} {read : α → Option β} {write : β → α}
    (hread : ∀ {a b}, read a = some b → a = write b) {as : List α} {bs : List β}
    (h : as.mapM read = some bs) : as = bs.map write := by
  induction as generalizing bs with
  | nil =>
      cases h
      rfl
  | cons a rest ih =>
      simp only [List.mapM_cons, Option.bind_eq_bind, Option.bind_eq_some_iff] at h
      obtain ⟨b, hb, others, hothers, hbs⟩ := h
      cases hbs
      rw [List.map_cons, ← ih hothers, ← hread hb]

/-- A part read from an element stands for that element. -/
theorem Part.of?_sound {e : Element} {p : Part} (h : of? e = some p) : e = p.element := by
  unfold of? at h
  split at h
  · split at h
    · next hhelper =>
        obtain ⟨name, hname, hbody⟩ := Option.bind_eq_some_iff.mp h
        obtain ⟨pieces, hpieces, rfl⟩ := Option.map_eq_some_iff.mp hbody
        rw [hhelper, Operand.eq_named hname, eq_map_of_mapM Piece.of?_sound hpieces]
        rfl
    · exact nomatch h
  · obtain ⟨piece, hpiece, rfl⟩ := Option.map_eq_some_iff.mp h
    exact Piece.of?_sound hpiece

/-! ### What parts show -/

/-- The member of a content under a name, or null. -/
def member (content : Content) (name : String) : Value := (Table.get? content name).getD .null

/-- A value as it is shown. -/
def present (html : Bool) (v : Value) : List Char :=
  if html then (plainText v).flatMap escapeHtml else plainText v

/-- A value, or another text if there is none or an empty one. -/
def orElse (v : Value) (fallback : String) : Value :=
  match v with
  | .null | .string "" => .string fallback
  | v => v

/-- What a piece shows. -/
def Piece.shown? (html : Bool) (content : Content) : Piece → Option (List Char)
  | .text s => some s
  | .field name => some (present html (member content name))
  | .capitals name =>
    (member content name).asString?.map fun s => present html (.string (Text.upper s))
  | .titled name fallback => some (present html (orElse (member content name) fallback))
  | .whole => some (present html (.string (Value.object content).write))

/-- Shows one thing after another. -/
def showAll? {α : Type} (show_ : α → Option (List Char)) : List α → Option (List Char)
  | [] => some []
  | a :: rest =>
    match show_ a, showAll? show_ rest with
    | some text, some more => some (text ++ more)
    | _, _ => none

/-- What a part shows. -/
def Part.shown? (html : Bool) (content : Content) : Part → Option (List Char)
  | .always p => p.shown? html content
  | .whenTrue name body =>
    if truthy false (member content name) then showAll? (Piece.shown? html content) body
    else some []

/-- All parts can be shown if each of them can. -/
theorem isSome_showAll? {α : Type} (show_ : α → Option (List Char)) (parts : List α) :
    (showAll? show_ parts).isSome = parts.all fun p => (show_ p).isSome := by
  induction parts with
  | nil => rfl
  | cons a rest ih =>
      rw [List.all_cons, ← ih, showAll?]
      cases show_ a <;> cases showAll? show_ rest <;> rfl

/-- Whether a piece can be shown: only capitals need a member of a certain type. -/
def Piece.fits (content : Content) : Piece → Bool
  | .capitals name => (member content name).asString?.isSome
  | .text _ | .field _ | .titled _ _ | .whole => true

/-- Whether a part can be shown. -/
def Part.fits (content : Content) : Part → Bool
  | .always p => p.fits content
  | .whenTrue name body => !truthy false (member content name) || body.all (Piece.fits content)

/-- A piece can be shown to exactly the contents that fit it. -/
theorem Piece.isSome_shown? (html : Bool) (content : Content) (p : Piece) :
    (p.shown? html content).isSome = p.fits content := by
  cases p with
  | capitals name => exact Option.isSome_map
  | text | field | titled | whole => rfl

/-- A part can be shown to exactly the contents that fit it. -/
theorem Part.isSome_shown? (html : Bool) (content : Content) (p : Part) :
    (p.shown? html content).isSome = p.fits content := by
  cases p with
  | always p => exact p.isSome_shown? html content
  | whenTrue name body =>
      simp only [shown?, fits]
      cases truthy false (member content name) with
      | false => rfl
      | true =>
          simp only [if_true, isSome_showAll?, Piece.isSome_shown?]
          rfl

/-! ### Rendering -/

/-- Whether a member that is shown as it is cannot be taken for a helper. -/
def Piece.isPlain : Piece → Bool
  | .field name => !helperNames.contains name
  | _ => true

def Part.isPlain : Part → Bool
  | .always p => p.isPlain
  | .whenTrue _ body => body.all Piece.isPlain

/-- The scope of a template outside of all blocks. -/
def outermost (content : Content) : Scope := [{ base := .object content }]

/-- At the outermost level a name stands for the member of the content. -/
theorem value?_named (root : Value) (content : Content) (name : String) :
    (named name).value? (outermost content) root = some (member content name) := by
  simp only [named, Operand.value?]
  rfl

/-- The parts of a call of a helper with a name and more after it. -/
theorem called?_word (root : Value) (content : Content) (helper name : String)
    (more : List Operand) :
    Call.called? (outermost content) root
        { callee := .word helper, arguments := named name :: more } =
      (Operand.values? (outermost content) root more).map fun vs =>
        ⟨helper, member content name :: vs, []⟩ := by
  simp only [Call.called?, Operand.helperName?, Operand.values?, Operand.optionValues?,
    value?_named]
  cases Operand.values? (outermost content) root more <;> rfl

/-- A lone name that is no helper's outputs the member of that name. -/
theorem output?_named (root : Value) (content : Content) {name : String}
    (h : helperNames.contains name = false) :
    Call.output? (outermost content) root { callee := named name } =
      some (member content name) := by
  have hcalled : Call.called? (outermost content) root { callee := named name } =
      some ⟨name, [], []⟩ := by
    simp only [Call.called?, named, Operand.helperName?, Operand.values?, Operand.optionValues?]
  simp only [Call.output?, hcalled, Option.bind_some, h, Bool.not_false, Bool.and_true,
    Call.isLone, List.isEmpty_nil, if_true, value?_named]

/-- A helper with arguments outputs its value for them. -/
theorem output?_helper {scope : Scope} {root : Value} {c : Template.Call} {k : Called}
    (hcalled : c.called? scope root = some k) (hgiven : c.arguments ≠ []) :
    c.output? scope root = nestedValue? k.name k.args k.options := by
  have hlone : c.isLone = false := by simp [Call.isLone, hgiven]
  simp only [Call.output?, hcalled, Option.bind_some, hlone, Bool.false_and, Bool.false_eq_true,
    if_false]

variable {s : Surroundings} {content : Content}

/-- How a value is shown where output is escaped. -/
theorem present_eq (s : Surroundings) (v : Value) : s.present true v = present s.html v := by
  simp only [Surroundings.present, present, Bool.and_true]

/-- Rendering a piece shows it. -/
theorem render_piece {p : Piece} (hplain : p.isPlain = true) (handed : List (List Element))
    (pieces : Pieces) :
    Element.render s handed (outermost content) pieces p.element =
      (p.shown? s.html content).map fun text => (text, pieces) := by
  cases p with
  | text t => simp only [Piece.element, Element.render, Piece.shown?, Option.map_some]
  | field name =>
      have hname : helperNames.contains name = false := by
        simpa [Piece.isPlain] using hplain
      simp only [Piece.element, Element.render, output?_named _ _ hname, Piece.shown?,
        Option.map_some, present_eq]
  | capitals name =>
      have hout := output?_helper (called?_word s.root content "upper" name []) nofun
      simp only [Piece.element, Element.render, hout, present_eq, Piece.shown?]
      cases member content name <;> rfl
  | titled name fallback =>
      have hout := output?_helper
        (called?_word s.root content "default" name [.literal (.string fallback)]) nofun
      simp only [Piece.element, Element.render, hout, present_eq, Piece.shown?]
      rfl
  | whole =>
      have hcalled : Call.called? (outermost content) s.root
          { callee := .word "json", arguments := [.path ⟨"this", []⟩] } =
          some ⟨"json", [.object content], []⟩ := rfl
      simp only [Piece.element, Element.render, output?_helper hcalled nofun, present_eq,
        Piece.shown?]
      rfl

/-- Rendering one element after the other is showing what they stand for one after the other. -/
theorem renderAll_map {α : Type} {element : α → Element} {show_ : α → Option (List Char)}
    {handed : List (List Element)} {scope : Scope} {pieces : Pieces} {parts : List α}
    (hrender : ∀ a ∈ parts, Element.render s handed scope pieces (element a) =
      (show_ a).map fun text => (text, pieces)) :
    renderAll s handed scope pieces (parts.map element) =
      (showAll? show_ parts).map fun text => (text, pieces) := by
  induction parts with
  | nil => exact renderAll_nil s handed scope pieces
  | cons a rest ih =>
      obtain ⟨hfirst, hothers⟩ := List.forall_mem_cons.mp hrender
      simp only [List.map_cons, renderAll, hfirst, showAll?]
      cases show_ a with
      | none => rfl
      | some text =>
          simp only [Option.map_some, ih hothers]
          cases showAll? show_ rest <;> rfl

/-- Rendering a part shows it. -/
theorem render_part {p : Part} (hplain : p.isPlain = true) (handed : List (List Element))
    (pieces : Pieces) :
    Element.render s handed (outermost content) pieces p.element =
      (p.shown? s.html content).map fun text => (text, pieces) := by
  cases p with
  | always piece => exact render_piece hplain handed pieces
  | whenTrue name body =>
      have hchoice : choose? ⟨"if", [member content name], []⟩ [] =
          some (if truthy false (member content name) then .bodyHere else .inverse) := by
        cases h : truthy false (member content name) <;> simp [choose?, h]
      have hbody : renderAll s handed (outermost content) pieces (body.map Piece.element) =
          (showAll? (Piece.shown? s.html content) body).map fun text => (text, pieces) :=
        renderAll_map fun piece hpiece =>
          render_piece (List.all_eq_true.mp hplain piece hpiece) handed pieces
      simp only [Part.element, Element.render, called?_word, Operand.values?, Option.map_some,
        Option.bind_some, hchoice, Part.shown?]
      cases truthy false (member content name) with
      | true => exact hbody
      | false => exact renderAll_nil s handed (outermost content) pieces

/-- A template that is made of parts shows these one after the other. -/
theorem render_of_parts {t : Template} {parts : List Part}
    (hparts : t.elements = parts.map Part.element) (hplain : parts.all Part.isPlain = true)
    (content : Content) :
    t.render content =
      match showAll? (Part.shown? t.html content) parts with
      | some text => .ok (String.ofList text)
      | none => .error .unrenderable := by
  have hall : renderWithin t.html (.object content) inclusionDepth [] (outermost content) []
      t.elements = (showAll? (Part.shown? t.html content) parts).map fun text => (text, []) := by
    rw [hparts]
    exact renderAll_map fun p hp => render_part (List.all_eq_true.mp hplain p hp) [] []
  simp only [outermost] at hall
  simp only [Template.render, hall]
  cases showAll? (Part.shown? t.html content) parts <;> rfl

/-- A template that is made of parts can be rendered if each of its parts can be shown, and fails
for no other reason than that one of them cannot. -/
theorem render_ok_iff {t : Template} {parts : List Part}
    (hparts : t.elements = parts.map Part.element) (hplain : parts.all Part.isPlain = true)
    (content : Content) :
    ((∃ text, t.render content = .ok text) ↔ parts.all (Part.fits content) = true) ∧
      (parts.all (Part.fits content) = false → t.render content = .error .unrenderable) := by
  have hfits : parts.all (Part.fits content) =
      (showAll? (Part.shown? t.html content) parts).isSome := by
    simp only [isSome_showAll?, Part.isSome_shown?]
  rw [render_of_parts hparts hplain, hfits]
  cases showAll? (Part.shown? t.html content) parts with
  | none => simp
  | some text => simp

end IncidentRelay.Template
