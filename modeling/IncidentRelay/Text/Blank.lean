/-!
# Blank characters and trimming

Blank characters are those with the Unicode property `White_Space`; the byte order mark and the
zero-width joiners are not among them. Trimming takes blanks from the two ends of a text and
nothing from its middle.

## Main statements

* `isBlank_of_isWhitespace`: the blanks of ASCII are blanks.
* `trim_eq_empty_iff`: trimming leaves nothing exactly of a text of blanks alone.
-/

namespace IncidentRelay.Text

/-- The Unicode property `White_Space`. -/
def isBlank (c : Char) : Bool :=
  let n := c.toNat
  (9 ≤ n && n ≤ 13) || n == 32 || n == 0x85 || n == 0xA0 || n == 0x1680
    || (0x2000 ≤ n && n ≤ 0x200A) || n == 0x2028 || n == 0x2029 || n == 0x202F || n == 0x205F
    || n == 0x3000

/-- The blanks of ASCII are blanks. -/
theorem isBlank_of_isWhitespace {c : Char} (h : c.isWhitespace = true) : isBlank c = true := by
  simp only [Char.isWhitespace, Bool.or_eq_true, decide_eq_true_eq] at h
  rcases h with ((h | h) | h) | h <;> subst h <;> decide

/-- The text without the characters of the class at its start. -/
def trimLeft (p : Char → Bool) (cs : List Char) : List Char := cs.dropWhile p

/-- The text without the characters of the class at its end. -/
def trimRight (p : Char → Bool) (cs : List Char) : List Char := (cs.reverse.dropWhile p).reverse

/-- The text without the characters of the class at its two ends. -/
def trimBy (p : Char → Bool) (cs : List Char) : List Char := trimRight p (trimLeft p cs)

/-- The text without blanks at its two ends. -/
def trim (s : String) : String := String.ofList (trimBy isBlank s.toList)

/-- Whether a text has no character but blanks. -/
def allBlank (s : String) : Bool := s.toList.all isBlank

/-- Nothing is left of a text if all its characters are dropped. -/
theorem dropWhile_eq_nil_iff (p : Char → Bool) (cs : List Char) :
    cs.dropWhile p = [] ↔ cs.all p = true := by
  induction cs with
  | nil => simp
  | cons c cs ih => by_cases h : p c <;> simp_all

/-- Nothing is left of a text if all its characters are trimmed away from its end. -/
theorem trimRight_eq_nil_iff (p : Char → Bool) (cs : List Char) :
    trimRight p cs = [] ↔ cs.all p = true := by
  rw [trimRight, List.reverse_eq_nil_iff, dropWhile_eq_nil_iff, List.all_reverse]

/-- Nothing is left of a text if all its characters are trimmed away from its ends. -/
theorem trimBy_eq_nil_iff (p : Char → Bool) (cs : List Char) :
    trimBy p cs = [] ↔ cs.all p = true := by
  rw [trimBy, trimRight_eq_nil_iff, trimLeft]
  constructor
  · intro h
    have : cs.dropWhile p = [] := by
      cases hd : cs.dropWhile p with
      | nil => rfl
      | cons c rest =>
        have hc : p c = false := by
          have := List.head?_dropWhile_not p cs
          simpa [hd] using this
        simp [hd, hc] at h
    exact (dropWhile_eq_nil_iff p cs).1 this
  · intro h
    rw [(dropWhile_eq_nil_iff p cs).2 h]
    rfl

/-- Trimming leaves nothing of a text of blanks alone. -/
theorem trim_eq_empty_iff (s : String) : trim s = "" ↔ allBlank s = true := by
  rw [← String.toList_inj, allBlank, ← trimBy_eq_nil_iff]
  simp [trim]

end IncidentRelay.Text
