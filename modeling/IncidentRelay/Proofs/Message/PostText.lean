import IncidentRelay.Channel.Post
import IncidentRelay.Proofs.Json.Inside
import IncidentRelay.Proofs.Text.Lines

/-!
# What a post shows of its text

A post shows its text line by line. Lines of blanks and heading marks may be dropped in front of the
title; every other line is shown once and in order, the first of them as the title if no line of
that kind took its place, and the others word for word.

## Main statements

* `Post.ofJson?_toJson`: the message that carries a post tells which post it is.
* `Post.isHeading_iff`: the heading of a line is the line without the blanks around it, without the
  heading marks in front, and without the blanks behind these.
* `Post.course_ofLines`: how a post comes of lines.
* `Post.loses_no_text`: what a message shows of a text.
-/

namespace IncidentRelay.Post

open Json (Value)
open Text

/-! ### Messages that carry a post -/

/-- The text of a paragraph in a message. -/
def paragraphOf? : Value → Option String
  | .array [part] =>
    if part.step? (.member "tag") = some (.string "text") then
      (part.step? (.member "text")).bind (·.asString?)
    else none
  | _ => none

/-- Reads the post that a message carries. -/
def ofJson? (m : Value) : Option Post :=
  if m.step? (.member "msg_type") = some (.string "post") then do
    let body ← m.at? [.member "content", .member "post", .member "en_us"]
    let title ← (body.step? (.member "title")).bind (·.asString?)
    let rows ← (body.step? (.member "content")).bind (·.asArray?)
    let paragraphs ← rows.mapM paragraphOf?
    some { title, paragraphs }
  else none

/-- The message that carries a post tells which post it is. -/
theorem ofJson?_toJson (p : Post) : ofJson? p.toJson = some p := by
  have hrows (rows : List String) :
      (rows.map fun s => Value.array [.object [("tag", .string "text"), ("text", .string s),
        ("un_escape", .bool true)]]).mapM paragraphOf? = some rows := by
    induction rows with
    | nil => rfl
    | cons s rows ih =>
        rw [List.map_cons, List.mapM_cons, ih]
        rfl
  have hkind : p.toJson.step? (.member "msg_type") = some (.string "post") := rfl
  rw [ofJson?, if_pos hkind]
  exact congrArg (fun rows : Option (List String) => rows.bind fun paragraphs =>
    some (Post.mk p.title paragraphs)) (hrows p.paragraphs)

/-! ### Headings -/

/-- A text is the heading of a line: blanks at both ends of the line, all heading marks in front and
the blanks behind them are left out. -/
inductive IsHeading : List Char → List Char → Prop
  | mk {front marks gap h back : List Char} (hfront : front.all isBlank = true)
      (hmarks : marks.all (· == '#') = true) (hgap : gap.all isBlank = true)
      (hback : back.all isBlank = true) (hafter : marks = [] → gap = [])
      (hrun : gap = [] → h.head? ≠ some '#') (htrimmed : IsTrimmed isBlank h) :
      IsHeading (front ++ marks ++ gap ++ h ++ back) h

/-- The heading that is computed of a line is a heading of it. -/
theorem isHeading_heading (line : List Char) : IsHeading line (heading line) := by
  obtain ⟨front, back, hfront, hback, hline, hinner⟩ := exists_trimBy isBlank line
  obtain ⟨marks, hmarks, hmarked⟩ := exists_trimLeft (· == '#') (trimBy isBlank line)
  obtain ⟨gap, tail, hgap, htail, hrest, htrimmed⟩ :=
    exists_trimBy isBlank (trimLeft (· == '#') (trimBy isBlank line))
  have hrest' : trimLeft (· == '#') (trimBy isBlank line) = gap ++ (heading line ++ tail) := by
    rw [hrest, List.append_assoc, heading]
  have hafter : marks = [] → gap = [] := by
    rintro rfl
    cases gap with
    | nil => rfl
    | cons c gap =>
        -- the line would begin with a blank although the blanks around it were taken away
        have hhead : (trimBy isBlank line).head? = some c := by
          rw [hmarked, hrest', List.nil_append, List.cons_append, List.head?_cons]
        rw [List.all_cons, hinner.first c hhead, Bool.false_and] at hgap
        exact nomatch hgap
  have hrun : gap = [] → (heading line).head? ≠ some '#' := by
    rintro rfl hhash
    have hhead : (trimLeft (· == '#') (trimBy isBlank line)).head? = some '#' := by
      rw [hrest', List.nil_append, List.head?_append, hhash, Option.some_or]
    exact absurd (head?_trimLeft _ _ _ hhead) (by decide)
  have hbacks : (tail ++ back).all isBlank = true := by rw [List.all_append, htail, hback]; rfl
  have hparts : line = front ++ marks ++ gap ++ heading line ++ (tail ++ back) := calc
    line = front ++ trimBy isBlank line ++ back := hline
    _ = front ++ (marks ++ (gap ++ (heading line ++ tail))) ++ back := by rw [← hrest', ← hmarked]
    _ = front ++ marks ++ gap ++ heading line ++ (tail ++ back) := by
      simp only [List.append_assoc]
  have hheading : IsHeading (front ++ marks ++ gap ++ heading line ++ (tail ++ back))
      (heading line) := .mk hfront hmarks hgap hbacks hafter hrun htrimmed
  rwa [← hparts] at hheading

/-- Heading marks are no blanks. -/
theorem isTrimmed_of_marks {marks : List Char} (hmarks : marks.all (· == '#') = true) :
    IsTrimmed isBlank marks := by
  have hmark (c : Char) (hc : c ∈ marks) : isBlank c = false := by
    rw [beq_iff_eq.mp (List.all_eq_true.mp hmarks c hc)]
    decide
  exact ⟨fun c hc => hmark c (List.mem_of_head? hc), fun c hc => hmark c (List.mem_of_getLast? hc)⟩

/-- A line has one heading. -/
theorem IsHeading.heading_eq {line h : List Char} (hline : IsHeading line h) :
    heading line = h := by
  obtain @⟨front, marks, gap, h, back, hfront, hmarks, hgap, hback, hafter, hrun, htrimmed⟩ := hline
  have hrest : trimLeft (· == '#') (marks ++ (gap ++ h)) = gap ++ h := by
    refine trimLeft_append hmarks fun c hc => beq_eq_false_iff_ne.mpr ?_
    rintro rfl
    cases gap with
    | nil => exact hrun rfl hc
    | cons g gap =>
        obtain rfl := Option.some.inj hc
        exact nomatch hgap
  have htail : trimBy isBlank (gap ++ h ++ []) = h := trimBy_append hgap htrimmed rfl
  rw [List.append_nil] at htail
  by_cases hh : h = []
  · -- then the blanks behind the marks are at the end of the line
    have hbacks : (gap ++ back).all isBlank = true := by rw [List.all_append, hgap, hback]; rfl
    have hgone : trimLeft (· == '#') marks = [] := (dropWhile_eq_nil_iff _ _).mpr hmarks
    rw [heading, hh, List.append_nil, List.append_assoc _ gap back,
      trimBy_append hfront (isTrimmed_of_marks hmarks) hbacks, hgone]
    rfl
  · have hinner : IsTrimmed isBlank (marks ++ (gap ++ h)) := by
      refine ⟨fun c hc => ?_, fun c hc => htrimmed.last c ?_⟩
      · cases marks with
        | nil =>
            obtain rfl := hafter rfl
            exact htrimmed.first c hc
        | cons m marks => exact (isTrimmed_of_marks hmarks).first c hc
      · rw [List.getLast?_eq_some_getLast hh]
        rwa [← List.append_assoc, List.getLast?_append, List.getLast?_eq_some_getLast hh,
          Option.some_or] at hc
    rw [heading, List.append_assoc front, List.append_assoc front, List.append_assoc marks,
      trimBy_append hfront hinner hback, hrest, htail]

/-- A line has one heading, the one that is computed. -/
theorem isHeading_iff {line h : List Char} : IsHeading line h ↔ heading line = h :=
  ⟨IsHeading.heading_eq, fun heq => heq ▸ isHeading_heading line⟩

/-- A heading has no blanks at its ends. -/
theorem IsHeading.trimmed {line h : List Char} (hline : IsHeading line h) :
    IsTrimmed isBlank h := by
  cases hline
  assumption

/-- Whether a line has a character that is no blank and no heading mark. -/
def hasText (line : List Char) : Bool := line.any fun c => !isBlank c && c != '#'

/-- A line without text is made of blanks and heading marks alone. -/
theorem hasText_eq_false_iff {line : List Char} :
    hasText line = false ↔ ∀ c ∈ line, isBlank c = true ∨ c = '#' := by
  simp [hasText, or_iff_not_imp_left]

/-- A blank line has no text. -/
theorem hasText_of_blank {line : List Char} (h : line.all isBlank = true) :
    hasText line = false :=
  hasText_eq_false_iff.mpr fun c hc => .inl (List.all_eq_true.mp h c hc)

/-- A line without a heading has no text. -/
theorem IsHeading.not_hasText {line : List Char} (h : IsHeading line []) :
    hasText line = false := by
  cases h with
  | @mk front marks gap _ back hfront hmarks hgap hback _ _ _ =>
      rw [hasText_eq_false_iff]
      intro c hc
      simp only [List.append_nil, List.mem_append] at hc
      rcases hc with ((hc | hc) | hc) | hc
      · exact .inl (List.all_eq_true.mp hfront c hc)
      · exact .inr (beq_iff_eq.mp (List.all_eq_true.mp hmarks c hc))
      · exact .inl (List.all_eq_true.mp hgap c hc)
      · exact .inl (List.all_eq_true.mp hback c hc)

/-! ### How a post comes of lines -/

/-- A paragraph has text if its line has. -/
theorem hasText_paragraph (line : List Char) : hasText (paragraph line).toList = hasText line := by
  rw [paragraph]
  split
  · next hblank =>
      rw [hasText_of_blank hblank]
      decide
  · rw [String.toList_ofList]

/-- The paragraphs with text are the lines with text, word for word. -/
theorem filter_paragraphs (lines : List (List Char)) :
    ((lines.map paragraph).map String.toList).filter hasText = lines.filter hasText := by
  induction lines with
  | nil => rfl
  | cons line rest ih =>
      simp only [List.map_cons, List.filter_cons, hasText_paragraph, ih]
      split
      · next htext =>
          have hblank : ¬ line.all isBlank = true := by
            intro hall
            rw [hasText_of_blank hall] at htext
            exact nomatch htext
          rw [paragraph, if_neg hblank, String.toList_ofList]
      · rfl

/-- How a post comes of lines: from the first line with a heading, or from none. -/
inductive Course (resolved : Bool) : List (List Char) → Post → Prop
  | titled (dropped : List (List Char)) {line shown : List Char} {after : List (List Char)}
      (hdropped : ∀ l ∈ dropped, IsHeading l []) (hline : IsHeading line shown)
      (hshown : shown ≠ []) :
      Course resolved (dropped ++ line :: after)
        ⟨marker resolved ++ " " ++ String.ofList shown, after.map paragraph⟩
  | untitled {lines : List (List Char)} (hlines : ∀ l ∈ lines, IsHeading l []) :
      Course resolved lines ⟨marker resolved ++ " " ++ defaultTitle resolved, []⟩

/-- A line without a heading makes no difference in front. -/
theorem Course.drop {resolved : Bool} {line : List Char} {lines : List (List Char)} {p : Post}
    (hline : IsHeading line []) (h : Course resolved lines p) :
    Course resolved (line :: lines) p := by
  cases h with
  | titled dropped hdropped htitle hshown =>
      exact .titled (line :: dropped) (List.forall_mem_cons.mpr ⟨hline, hdropped⟩) htitle hshown
  | untitled hlines => exact .untitled (List.forall_mem_cons.mpr ⟨hline, hlines⟩)

/-- The post of lines takes one of its courses. -/
theorem course_ofLines (resolved : Bool) (lines : List (List Char)) :
    Course resolved lines (ofLines resolved lines) := by
  induction lines with
  | nil => exact .untitled (List.forall_mem_nil _)
  | cons line rest ih =>
      have hheading := isHeading_heading line
      by_cases hnone : heading line = []
      · have hskip : ofLines resolved (line :: rest) = ofLines resolved rest := by
          simp only [ofLines, split?, if_pos hnone]
        rw [hnone] at hheading
        rw [hskip]
        exact ih.drop hheading
      · simp only [ofLines, split?, if_neg hnone]
        exact .titled [] (List.forall_mem_nil _) hheading hnone

/-- The lines before the title have no text. -/
theorem filter_of_no_heading {lines : List (List Char)} (h : ∀ l ∈ lines, IsHeading l []) :
    lines.filter hasText = [] :=
  List.filter_eq_nil_iff.mpr fun l hl => by rw [(h l hl).not_hasText]; exact Bool.false_ne_true

/-- What a title without a heading shows is trimmed. -/
theorem isTrimmed_defaultTitle (resolved : Bool) :
    (defaultTitle resolved).toList ≠ [] ∧ IsTrimmed isBlank (defaultTitle resolved).toList := by
  rw [← trimBy_eq_self_iff]
  cases resolved <;> decide

/-- What a post shows of its lines. -/
theorem Course.exists_shown {resolved : Bool} {lines : List (List Char)} {p : Post}
    (h : Course resolved lines p) :
    ∃ shown, p.title = marker resolved ++ " " ++ String.ofList shown ∧ shown ≠ [] ∧
      IsTrimmed isBlank shown ∧
      ((∃ dropped line after, lines = dropped ++ line :: after ∧
          (∀ l ∈ dropped, IsHeading l []) ∧ IsHeading line shown ∧
          p.paragraphs = after.map (fun l => if l.all isBlank then " " else String.ofList l) ∧
          lines.filter hasText =
            [line].filter hasText ++ (p.paragraphs.map String.toList).filter hasText) ∨
        ((∀ l ∈ lines, IsHeading l []) ∧ lines.filter hasText = [] ∧
          String.ofList shown = defaultTitle resolved ∧ p.paragraphs = [])) := by
  cases h with
  | @titled dropped line shown after hdropped hline hshown =>
      have htexts : (dropped ++ line :: after).filter hasText =
          [line].filter hasText ++ ((after.map paragraph).map String.toList).filter hasText := by
        rw [List.filter_append, filter_of_no_heading hdropped, List.nil_append, filter_paragraphs,
          ← List.filter_append, List.singleton_append]
      exact ⟨shown, rfl, hshown, hline.trimmed,
        .inl ⟨dropped, line, after, rfl, hdropped, hline, rfl, htexts⟩⟩
  | untitled hlines =>
      obtain ⟨hne, htrimmed⟩ := isTrimmed_defaultTitle resolved
      have htext : String.ofList (defaultTitle resolved).toList = defaultTitle resolved :=
        String.ofList_toList
      refine ⟨(defaultTitle resolved).toList, ?_, hne, htrimmed,
        .inr ⟨hlines, filter_of_no_heading hlines, htext, rfl⟩⟩
      rw [htext]

/-- What the message for a text shows of it. The title is the marker, a space and a text that is not
empty and neither begins nor ends with a blank. It is the heading of the first line that has one:
then there is a paragraph for each line after that line, a single space for a blank one and the line
itself for any other, and the lines with text are the title line, if it has text, and the paragraphs
with text, in order. If no line has a heading, then no line has text, there are no paragraphs, and
the title is the default one. -/
theorem loses_no_text (resolved : Bool) (text : String) :
    ∃ lines p, BreaksInto text.toList lines ∧ ofJson? (ofText resolved text).toJson = some p ∧
      (∀ s ∈ p.paragraphs, s ≠ "") ∧
      ∃ shown, p.title = marker resolved ++ " " ++ String.ofList shown ∧ shown ≠ [] ∧
        IsTrimmed isBlank shown ∧
        ((∃ dropped line after, lines = dropped ++ line :: after ∧
            (∀ l ∈ dropped, IsHeading l []) ∧ IsHeading line shown ∧
            p.paragraphs = after.map (fun l => if l.all isBlank then " " else String.ofList l) ∧
            lines.filter hasText =
              [line].filter hasText ++ (p.paragraphs.map String.toList).filter hasText) ∨
          ((∀ l ∈ lines, IsHeading l []) ∧ lines.filter hasText = [] ∧
            String.ofList shown = defaultTitle resolved ∧ p.paragraphs = [])) := by
  refine ⟨lines text.toList, ofText resolved text, breaksInto_lines _, ofJson?_toJson _,
    paragraphs_ne_empty resolved _, (course_ofLines resolved _).exists_shown⟩

/-- A line of heading marks alone is no title line, and heading marks behind a blank are text. -/
example : ofText false "##\n# #\n\n# b" = ⟨"🔴 #", [" ", "# b"]⟩ := by decide +kernel

end IncidentRelay.Post
