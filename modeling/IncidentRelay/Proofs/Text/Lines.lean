import IncidentRelay.Text.Blank
import IncidentRelay.Text.Lines
import Mathlib.Data.List.TakeWhile

/-!
# Lines and trimmed texts

What it is to be the lines of a text, and what trimming leaves, told without saying how either is
found.

## Main statements

* `breaksInto_lines`: the lines of a text are the pieces between its line breaks.
* `exists_trimBy`, `trimBy_append`: trimming takes away the characters of the class at the two ends,
  and nothing else.
-/

namespace IncidentRelay.Text

/-! ### Lines -/

/-- How a text breaks into lines: a line ends with a line feed, which a carriage return may precede,
and the last one may also end with the text. -/
inductive BreaksInto : List Char → List (List Char) → Prop
  | done : BreaksInto [] []
  | last {line : List Char} (hline : '\n' ∉ line) (hne : line ≠ []) : BreaksInto line [line]
  | feed {line rest : List Char} {lines : List (List Char)} (hline : '\n' ∉ line)
      (hreturn : line.getLast? ≠ some '\r') (hrest : BreaksInto rest lines) :
      BreaksInto (line ++ '\n' :: rest) (line :: lines)
  | returnFeed {line rest : List Char} {lines : List (List Char)} (hline : '\n' ∉ line)
      (hrest : BreaksInto rest lines) :
      BreaksInto (line ++ '\r' :: '\n' :: rest) (line :: lines)

/-- A text without a break is one line, or none if it is empty. -/
theorem lines_of_no_break {cs : List Char} (h : '\n' ∉ cs) :
    lines cs = if cs = [] then [] else [cs] := by
  simp only [lines, segments_of_not_mem h, List.dropLast_singleton, List.map_nil,
    List.nil_append, List.getLast_singleton]

/-- The first break ends the first line. -/
theorem lines_append_break {line : List Char} (h : '\n' ∉ line) (rest : List Char) :
    lines (line ++ '\n' :: rest) = dropReturn line :: lines rest := by
  have hsegments : segments '\n' (line ++ '\n' :: rest) = line :: segments '\n' rest := by
    rw [segments_append, segments_of_not_mem h, List.singleton_append]
  have hne := segments_ne_nil '\n' rest
  simp only [lines, hsegments, List.dropLast_cons_of_ne_nil hne, List.map_cons, List.cons_append,
    List.getLast_cons hne]

/-- The lines of a text are the pieces between its line breaks. -/
theorem breaksInto_lines (cs : List Char) : BreaksInto cs (lines cs) := by
  induction hlength : cs.length using Nat.strongRecOn generalizing cs with
  | ind n ih =>
      by_cases hbreak : '\n' ∈ cs
      · obtain ⟨line, rest, rfl, hline⟩ := List.eq_append_cons_of_mem hbreak
        have hrest : BreaksInto rest (lines rest) := by
          refine ih rest.length ?_ rest rfl
          rw [← hlength, List.length_append, List.length_cons]
          omega
        rw [lines_append_break hline, dropReturn]
        by_cases hreturn : line.getLast? = some '\r'
        · obtain ⟨front, rfl⟩ := List.getLast?_eq_some_iff.mp hreturn
          rw [if_pos hreturn, List.dropLast_concat, List.append_assoc]
          exact .returnFeed (fun h => hline (List.mem_append_left _ h)) hrest
        · rw [if_neg hreturn]
          exact .feed hline hreturn hrest
      · rw [lines_of_no_break hbreak]
        by_cases hne : cs = []
        · rw [if_pos hne, hne]
          exact .done
        · rw [if_neg hne]
          exact .last hbreak hne

/-! ### Trimmed texts -/

/-- A text that does not begin or end with a character of a class. -/
structure IsTrimmed (p : Char → Bool) (cs : List Char) : Prop where
  first : ∀ c, cs.head? = some c → p c = false
  last : ∀ c, cs.getLast? = some c → p c = false

variable (p : Char → Bool)

/-- What is left in front begins with no character of the class. -/
theorem head?_trimLeft (cs : List Char) (c : Char) (h : (trimLeft p cs).head? = some c) :
    p c = false := by
  have hnot := List.head?_dropWhile_not p cs
  rw [trimLeft] at h
  rw [h] at hnot
  exact hnot

/-- Trimming takes characters of the class from the front. -/
theorem exists_trimLeft (cs : List Char) :
    ∃ front, front.all p = true ∧ cs = front ++ trimLeft p cs :=
  ⟨cs.takeWhile p, List.all_takeWhile, (List.takeWhile_append_dropWhile).symm⟩

/-- Trimming takes characters of the class from the end. -/
theorem exists_trimRight (cs : List Char) :
    ∃ back, back.all p = true ∧ cs = trimRight p cs ++ back := by
  refine ⟨(cs.reverse.takeWhile p).reverse, by rw [List.all_reverse]; exact List.all_takeWhile, ?_⟩
  rw [trimRight, ← List.reverse_append, List.takeWhile_append_dropWhile, List.reverse_reverse]

/-- Trimming takes away characters of the class at the two ends, and all of them. -/
theorem exists_trimBy (cs : List Char) :
    ∃ front back, front.all p = true ∧ back.all p = true ∧ cs = front ++ trimBy p cs ++ back ∧
      IsTrimmed p (trimBy p cs) := by
  obtain ⟨front, hfront, hcs⟩ := exists_trimLeft p cs
  obtain ⟨back, hback, hleft⟩ := exists_trimRight p (trimLeft p cs)
  refine ⟨front, back, hfront, hback, ?_, ?first, ?last⟩
  · rw [trimBy, List.append_assoc, ← hleft, ← hcs]
  case first =>
    intro c hc
    refine head?_trimLeft p cs c ?_
    rw [hleft, List.head?_append, ← trimBy, hc, Option.some_or]
  case last =>
    intro c hc
    rw [trimBy, trimRight, List.getLast?_reverse] at hc
    exact head?_trimLeft p _ c hc

variable {p}

/-- What begins with no character of the class is what is left behind such characters. -/
theorem trimLeft_append {front rest : List Char} (hfront : front.all p = true)
    (hrest : ∀ c, rest.head? = some c → p c = false) : trimLeft p (front ++ rest) = rest := by
  rw [trimLeft, List.dropWhile_append_of_pos (List.all_eq_true.mp hfront)]
  cases rest with
  | nil => rfl
  | cons c rest => exact List.dropWhile_cons_of_neg (by rw [hrest c rfl]; exact Bool.false_ne_true)

/-- What is trimmed away again was put behind a text that needs no trimming. -/
theorem trimRight_append {rest back : List Char} (hback : back.all p = true)
    (hrest : ∀ c, rest.getLast? = some c → p c = false) : trimRight p (rest ++ back) = rest := by
  have hleft : trimLeft p (back.reverse ++ rest.reverse) = rest.reverse :=
    trimLeft_append (List.all_reverse.trans hback) (by simpa only [List.head?_reverse] using hrest)
  rw [trimRight, List.reverse_append, ← trimLeft, hleft, List.reverse_reverse]

/-- A trimmed text is what trimming leaves of it with characters of the class around. -/
theorem trimBy_append {front cs back : List Char} (hfront : front.all p = true)
    (hcs : IsTrimmed p cs) (hback : back.all p = true) :
    trimBy p (front ++ cs ++ back) = cs := by
  cases cs with
  | nil =>
      rw [trimBy_eq_nil_iff, List.append_nil, List.all_append, hfront, hback]
      rfl
  | cons c cs =>
      have hleft : trimLeft p (front ++ ((c :: cs) ++ back)) = (c :: cs) ++ back :=
        trimLeft_append hfront hcs.first
      rw [List.append_assoc, trimBy, hleft, trimRight_append hback hcs.last]

/-- Trimming changes nothing exactly in a text that is trimmed. -/
theorem trimBy_eq_self_iff {cs : List Char} : trimBy p cs = cs ↔ IsTrimmed p cs := by
  constructor
  · intro h
    obtain ⟨-, -, -, -, -, htrimmed⟩ := exists_trimBy p cs
    rwa [h] at htrimmed
  · intro h
    simpa using @trimBy_append p [] cs [] rfl h rfl

end IncidentRelay.Text
