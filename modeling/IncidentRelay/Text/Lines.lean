/-!
# Splitting a text

A text is cut at every occurrence of a separator, so that a text with `n` separators has `n + 1`
segments, some of them empty. Lines are the segments between line feeds; a carriage return right
before the line feed belongs to the break, and a line feed at the very end opens no further line.

## Main statements

* `segments_ne_nil`: every text has a segment.
* `segments_of_not_mem`: a text without the separator is one segment.
* `segments_append`: the segments of two texts joined by the separator are the segments of both.
* `mem_of_mem_segments`: a segment has only characters of the text, and no separator.
* `intercalate_segments`: joining the segments with the separator gives the text back.
-/

namespace IncidentRelay.Text

/-- The pieces of a text between the occurrences of a separator. -/
def segments (sep : Char) : List Char → List (List Char)
  | [] => [[]]
  | c :: rest =>
    if c = sep then [] :: segments sep rest
    else match segments sep rest with
      | [] => [[c]]
      | s :: more => (c :: s) :: more

/-- There is always a segment. -/
theorem segments_ne_nil (sep : Char) (cs : List Char) : segments sep cs ≠ [] := by
  cases cs with
  | nil => simp [segments]
  | cons c rest =>
    simp only [segments]
    split
    · simp
    · split <;> simp

/-- A separator ends the segments before it. -/
theorem segments_append (sep : Char) (a b : List Char) :
    segments sep (a ++ sep :: b) = segments sep a ++ segments sep b := by
  induction a with
  | nil => simp [segments]
  | cons c a ih =>
    by_cases h : c = sep
    · simp [segments, h, ih]
    · simp only [List.cons_append, segments, h, if_false, ih]
      cases hs : segments sep a with
      | nil => exact absurd hs (segments_ne_nil sep a)
      | cons s more => rfl

/-- A text without a separator is one segment. -/
theorem segments_of_not_mem {sep : Char} {cs : List Char} (h : sep ∉ cs) :
    segments sep cs = [cs] := by
  induction cs with
  | nil => rfl
  | cons c rest ih =>
    obtain ⟨hc, hrest⟩ : sep ≠ c ∧ sep ∉ rest := by simpa using h
    simp only [segments, if_neg (Ne.symm hc), ih hrest]

/-- Segments with their separators between them are the text again. -/
theorem intercalate_segments (sep : Char) (cs : List Char) :
    [sep].intercalate (segments sep cs) = cs := by
  induction cs with
  | nil => rfl
  | cons c rest ih =>
    simp only [segments]
    cases hs : segments sep rest with
    | nil => exact absurd hs (segments_ne_nil sep rest)
    | cons s more =>
      rw [hs] at ih
      split
      · next h => simpa [List.intercalate, List.intersperse, h] using ih
      · cases more with
        | nil => simp_all [List.intercalate]
        | cons t more => simp_all [List.intercalate, List.intersperse]

/-- A segment has only characters of the text, and no separator. -/
theorem mem_of_mem_segments {sep : Char} {cs s : List Char} (hs : s ∈ segments sep cs) {c : Char}
    (hc : c ∈ s) : c ∈ cs ∧ c ≠ sep := by
  induction cs generalizing s with
  | nil =>
      obtain rfl : s = [] := by simpa [segments] using hs
      exact absurd hc List.not_mem_nil
  | cons d rest ih =>
      obtain ⟨t, more, hrest⟩ := List.exists_cons_of_ne_nil (segments_ne_nil sep rest)
      rw [hrest] at ih
      simp only [segments, hrest] at hs
      split at hs
      case isTrue =>
        rcases List.mem_cons.mp hs with rfl | hs
        · exact absurd hc List.not_mem_nil
        · exact (ih hs hc).imp_left (List.mem_cons_of_mem _)
      case isFalse hd =>
        rcases List.mem_cons.mp hs with rfl | hs
        · rcases List.mem_cons.mp hc with rfl | hc
          · exact ⟨List.mem_cons_self, hd⟩
          · exact (ih List.mem_cons_self hc).imp_left (List.mem_cons_of_mem _)
        · exact (ih (List.mem_cons_of_mem _ hs) hc).imp_left (List.mem_cons_of_mem _)

/-- The line without the carriage return at its end, if it has one. -/
def dropReturn (cs : List Char) : List Char :=
  if cs.getLast? = some '\r' then cs.dropLast else cs

/-- The lines of a text: every segment but the last is ended by a line feed, and the last one
counts unless it is empty. -/
def lines (cs : List Char) : List (List Char) :=
  let pieces := segments '\n' cs
  let last := pieces.getLast (segments_ne_nil '\n' cs)
  pieces.dropLast.map dropReturn ++ if last = [] then [] else [last]

/-- The pieces of a text between the occurrences of a character. -/
def split (sep : Char) (s : String) : List String :=
  (segments sep s.toList).map String.ofList

/-- Cuts a text at the first occurrence of a character, which goes to neither part. -/
def cut? (sep : Char) (cs : List Char) : Option (List Char × List Char) :=
  match cs.dropWhile (· != sep) with
  | [] => none
  | _ :: rest => some (cs.takeWhile (· != sep), rest)

/-- Whether the second text occurs somewhere in the first. -/
def occursIn (needle : List Char) : List Char → Bool
  | [] => needle.isEmpty
  | c :: rest => needle.isPrefixOf (c :: rest) || occursIn needle rest

/-- The text with every occurrence of `from`, taken from the left without overlap, replaced.
An empty `from` occurs before every character and at the end. `skip` counts the characters that
still belong to the last occurrence. -/
def replaceAux (needle by_ : List Char) : Nat → List Char → List Char
  | _, [] => if needle.isEmpty then by_ else []
  | 0, c :: rest =>
    if needle.isPrefixOf (c :: rest) then
      by_ ++ match needle.length with
        | 0 => c :: replaceAux needle by_ 0 rest
        | k + 1 => replaceAux needle by_ k rest
    else c :: replaceAux needle by_ 0 rest
  | k + 1, _ :: rest => replaceAux needle by_ k rest

/-- The text with every occurrence of `needle` replaced. -/
def replace (s needle replacement : String) : String :=
  String.ofList (replaceAux needle.toList replacement.toList 0 s.toList)

end IncidentRelay.Text
