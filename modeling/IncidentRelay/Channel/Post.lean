import IncidentRelay.Json.Value
import IncidentRelay.Text.Blank
import IncidentRelay.Text.Lines

/-!
# Posts

A text as a post with a title. The first line that has more than blanks and heading marks becomes
the title, behind a coloured dot; the lines after it become paragraphs, as they are, except that a
blank one becomes a single space. Lines before the title are dropped, and so is everything when
there is no title.

## Main statements

* `Post.paragraphs_ne_empty`: no paragraph is empty.
-/

namespace IncidentRelay

open Json (Value)
open Text

/-- A title and the paragraphs below it. -/
structure Post where
  title : String
  paragraphs : List String
  deriving DecidableEq

namespace Post

/-- The heading that a line holds: what is left of it without blanks around it and without the
heading marks in front. -/
def heading (line : List Char) : List Char :=
  trimBy isBlank (trimLeft (· == '#') (trimBy isBlank line))

/-- The paragraph of a line. -/
def paragraph (line : List Char) : String :=
  if line.all isBlank then " " else String.ofList line

/-- The dot in front of the title. -/
def marker (resolved : Bool) : String := if resolved then "🟢" else "🔴"

/-- The title of a text without a heading. -/
def defaultTitle (resolved : Bool) : String :=
  if resolved then "Incident Resolved" else "Incident Alert"

/-- The heading of the first line that has one, and the lines after it. -/
def split? : List (List Char) → Option (List Char × List (List Char))
  | [] => none
  | line :: rest => if heading line = [] then split? rest else some (heading line, rest)

/-- The post of lines. -/
def ofLines (resolved : Bool) (lines : List (List Char)) : Post :=
  match split? lines with
  | none => { title := marker resolved ++ " " ++ defaultTitle resolved, paragraphs := [] }
  | some (h, rest) =>
    { title := marker resolved ++ " " ++ String.ofList h, paragraphs := rest.map paragraph }

/-- The post of a text. -/
def ofText (resolved : Bool) (text : String) : Post := ofLines resolved (lines text.toList)

/-- The message that carries a post. -/
def toJson (p : Post) : Value :=
  let paragraph (s : String) : Value :=
    .array [.object [("tag", .string "text"), ("text", .string s), ("un_escape", .bool true)]]
  let body : Value :=
    .object [("content", .array (p.paragraphs.map paragraph)), ("title", .string p.title)]
  .object [("content", .object [("post", .object [("en_us", body)])]),
    ("msg_type", .string "post")]

/-- The paragraph of a line is never empty, since a blank line gives a space. -/
theorem paragraph_ne_empty (line : List Char) : paragraph line ≠ "" := by
  unfold paragraph
  split
  · decide
  · next h =>
    intro e
    rw [← String.toList_inj] at e
    simp at e
    subst e
    simp at h

/-- No paragraph of a post is empty. -/
theorem paragraphs_ne_empty (resolved : Bool) (lines : List (List Char)) (p : String)
    (h : p ∈ (ofLines resolved lines).paragraphs) : p ≠ "" := by
  unfold ofLines at h
  split at h
  · simp at h
  · simp only [List.mem_map] at h
    obtain ⟨line, -, rfl⟩ := h
    exact paragraph_ne_empty line

end Post

end IncidentRelay
