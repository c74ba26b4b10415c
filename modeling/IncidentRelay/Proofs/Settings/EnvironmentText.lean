import IncidentRelay.Proofs.Text.Lines
import IncidentRelay.Settings.Environment
import Mathlib.Data.List.Infix

/-!
# Texts in the environment

What stands in a variable is read as a truth value, a number, a list or a table if it looks like one
from its first character to its last. A trimmed text that looks like none of these, and is not in
quotes, stands for itself. Any text can be given in double quotes, with a backslash before each
quote and each backslash in it.

## Main statements

* `value?_end`: what a trimmed text can be that is read to its end.
* `value_of_not_typed`: a text that reads as nothing else stands for itself.
* `value_of_typed`: what reads as something else is no text.
* `value_quote`: any text can be given in quotes.
-/

namespace IncidentRelay.Settings.Environment

open Json (Fields Value)

/-! ### What reads as something else -/

/-- Whether a text is surrounded by quotes of one kind. -/
def IsQuoted (s : String) : Prop :=
  ∃ q ∈ ['"', '\''], ∃ inner, s.toList = q :: (inner ++ [q])

/-- Whether characters are an integer of 64 bits, or a floating-point number with a point. -/
def IsNumber (cs : List Char) : Prop :=
  (∀ c ∈ cs, isSeparator c = false) ∧
    ((unsigned? cs).isSome ∨ (negative? cs).isSome ∨
      '.' ∈ cs ∧ (Decimal.float? (String.ofList cs)).isSome)

/-- Whether a text is a list or a table from its first bracket to its end. -/
def IsBracketed (s : String) : Prop :=
  s.toList.head? ∈ [some '[', some '{'] ∧ ∃ v, value? (s.length + 2) s.toList = some (v, [])

/-- Whether a text reads as something other than a text. -/
def IsTyped (s : String) : Prop :=
  s = "true" ∨ s = "false" ∨ IsNumber s.toList ∨ IsBracketed s

/-- A text that does not begin with a quote is no quoted text. -/
theorem not_isQuoted {s : String} (h : s.toList.head? ∉ [some '"', some '\'']) :
    ¬ IsQuoted s := by
  rintro ⟨q, hq, inner, heq⟩
  rw [heq] at h
  simp only [List.mem_cons, List.not_mem_nil, or_false] at hq
  rcases hq with rfl | rfl <;> simp at h

/-! ### Blanks at the ends -/

/-- The blanks that a reader skips are blanks. -/
theorem isBlank_of_isSpace {c : Char} (h : isSpace c = true) : Text.isBlank c = true := by
  simp only [isSpace, Bool.or_eq_true, beq_iff_eq] at h
  rcases h with (((rfl | rfl) | rfl) | rfl) | h
  · decide
  · decide
  · decide
  · decide
  · simp [Text.isBlank, h]

/-- A text that is trimmed is trimmed as characters, too. -/
theorem trimBy_eq_of_trim {s : String} (h : Text.trim s = s) :
    Text.trimBy Text.isBlank s.toList = s.toList := by
  have hlist := congrArg String.toList h
  rwa [Text.trim, String.toList_ofList] at hlist

/-- A trimmed text does not begin with a blank. -/
theorem isBlank_head {c : Char} {cs : List Char}
    (h : Text.trimBy Text.isBlank (c :: cs) = c :: cs) : Text.isBlank c = false :=
  (Text.trimBy_eq_self_iff.mp h).first c rfl

/-- A trimmed text does not begin with a blank. -/
theorem isSpace_head {c : Char} {cs : List Char}
    (h : Text.trimBy Text.isBlank (c :: cs) = c :: cs) : isSpace c = false := by
  by_contra hspace
  rw [Bool.not_eq_false] at hspace
  exact absurd (isBlank_of_isSpace hspace) (by simp [isBlank_head h])

/-- A trimmed text does not end in blanks. -/
theorem eq_nil_of_blank_end {first last : List Char}
    (h : Text.trimBy Text.isBlank (first ++ last) = first ++ last)
    (hlast : ∀ c ∈ last, Text.isBlank c = true) : last = [] := by
  rcases List.eq_nil_or_concat last with rfl | ⟨rest, c, rfl⟩
  · rfl
  rw [List.concat_eq_append, ← List.append_assoc] at h
  have hlast' := (Text.trimBy_eq_self_iff.mp h).last c List.getLast?_concat
  rw [hlast c (by simp)] at hlast'
  exact nomatch hlast'

/-! ### Reading to the end -/

/-- A wide escape takes characters from the front. -/
theorem wide?_suffix {digits : Nat} {cs rest : List Char} {d : Char}
    (h : Toml.escape?.wide? digits cs = some (d, rest)) : rest <:+ cs := by
  unfold Toml.escape?.wide? at h
  split at h
  · exact nomatch h
  · obtain ⟨c, -, heq⟩ := Option.map_eq_some_iff.mp h
    cases heq
    exact List.drop_suffix digits cs

/-- What is left after an escape is the end of the text. -/
theorem escape?_suffix {cs rest : List Char} {d : Char}
    (h : Toml.escape? cs = some (d, rest)) : rest <:+ cs := by
  unfold Toml.escape? at h
  split at h
  case h_8 => exact (wide?_suffix h).trans (List.suffix_cons _ _)
  case h_9 => exact (wide?_suffix h).trans (List.suffix_cons _ _)
  case h_10 => exact nomatch h
  all_goals
    cases h
    exact List.suffix_cons _ _

/-- A quoted text ends at a quote. -/
theorem quoted?_end {fuel : Nat} {read cs rest : List Char} {s : String}
    (h : quoted? fuel read cs = some (s, rest)) : ∃ inner, cs = inner ++ '"' :: rest := by
  induction fuel generalizing read cs with
  | zero => rw [quoted?] at h; exact nomatch h
  | succ fuel ih =>
      cases cs with
      | nil => rw [quoted?] at h; exact nomatch h; nofun
      | cons c after =>
          rw [quoted?] at h
          split at h
          · next hc =>
              cases h
              exact ⟨[], by rw [hc]; rfl⟩
          · split at h
            · obtain ⟨⟨d, later⟩, hescape, h⟩ := Option.bind_eq_some_iff.mp h
              obtain ⟨inner, rfl⟩ := ih h
              obtain ⟨before, rfl⟩ := escape?_suffix hescape
              exact ⟨c :: before ++ inner, by simp⟩
            · obtain ⟨inner, rfl⟩ := ih h
              exact ⟨c :: inner, rfl⟩

/-- What a trimmed text reads as, if it is read to its end. -/
theorem value?_end {fuel : Nat} {c : Char} {cs : List Char} {v : Value}
    (htrim : Text.trimBy Text.isBlank (c :: cs) = c :: cs)
    (h : value? (fuel + 1) (c :: cs) = some (v, [])) :
    (c :: cs = "true".toList ∧ v = .bool true) ∨ (c :: cs = "false".toList ∧ v = .bool false) ∨
      (c = '[' ∧ ∃ vs, v = .array vs) ∨ (c = '{' ∧ ∃ fs, v = .object fs) ∨
      (∃ q ∈ ['"', '\''], ∃ inner, c :: cs = q :: (inner ++ [q])) ∨
      ((∀ d ∈ c :: cs, isSeparator d = false) ∧ v = scalar (c :: cs)) := by
  -- After a value there may be white space, of which a trimmed text has none at its end.
  have hend : ∀ (first : List Char) {last : List Char}, c :: cs = first ++ last →
      last.dropWhile isSpace = [] → last = [] := by
    intro first last heq hlast
    rw [heq] at htrim
    refine eq_nil_of_blank_end htrim fun d hd => isBlank_of_isSpace ?_
    exact List.all_eq_true.mp ((Text.dropWhile_eq_nil_iff _ _).mp hlast) d hd
  unfold value? at h
  obtain ⟨⟨u, rest⟩, hu, heq⟩ := Option.map_eq_some_iff.mp h
  rw [Prod.mk.injEq] at heq
  obtain ⟨rfl, hrest⟩ := heq
  rw [List.dropWhile_cons_of_neg (by simp [isSpace_head htrim])] at hu
  split at hu
  · next after heq =>
      cases hu
      obtain rfl := hend "true".toList heq hrest
      exact .inl ⟨heq, rfl⟩
  · next after heq =>
      cases hu
      obtain rfl := hend "false".toList heq hrest
      exact .inr (.inl ⟨heq, rfl⟩)
  · next after heq =>
      obtain ⟨⟨es, r⟩, -, heq'⟩ := Option.map_eq_some_iff.mp hu
      cases heq
      cases heq'
      exact .inr (.inr (.inr (.inl ⟨rfl, _, rfl⟩)))
  · next after heq =>
      obtain ⟨⟨vs, r⟩, -, heq'⟩ := Option.map_eq_some_iff.mp hu
      cases heq
      cases heq'
      exact .inr (.inr (.inl ⟨rfl, _, rfl⟩))
  · next after heq =>
      obtain ⟨⟨t, r⟩, hquoted, heq'⟩ := Option.map_eq_some_iff.mp hu
      cases heq'
      obtain ⟨inner, rfl⟩ := quoted?_end hquoted
      obtain rfl := hend ('"' :: (inner ++ ['"'])) (by rw [heq]; simp) hrest
      exact .inr (.inr (.inr (.inr (.inl ⟨'"', by simp, inner, heq⟩))))
  · next d after heq =>
      cases hu
      obtain rfl := hend ['\'', d, '\''] heq hrest
      exact .inr (.inr (.inr (.inr (.inl ⟨'\'', by simp, [d], heq⟩))))
  · exact nomatch hu
  · cases hu
    have hnone := hend _ List.takeWhile_append_dropWhile.symm hrest
    have hall := List.all_eq_true.mp ((Text.dropWhile_eq_nil_iff _ _).mp hnone)
    refine .inr (.inr (.inr (.inr (.inr ⟨fun d hd => by simpa using hall d hd, ?_⟩))))
    rw [List.takeWhile_eq_self_iff.mpr hall]

/-! ### Numbers -/

/-- A trimmed text that is no number stands for itself. -/
theorem scalar_of_not_number {cs : List Char} (htrim : Text.trimBy Text.isBlank cs = cs)
    (hseparators : ∀ c ∈ cs, isSeparator c = false) (h : ¬ IsNumber cs) :
    scalar cs = .string (String.ofList cs) := by
  have hkinds : ¬ ((unsigned? cs).isSome ∨ (negative? cs).isSome ∨
      '.' ∈ cs ∧ (Decimal.float? (String.ofList cs)).isSome) := fun hk => h ⟨hseparators, hk⟩
  simp only [not_or, not_and, Bool.not_eq_true, Option.isSome_eq_false_iff,
    Option.isNone_iff_eq_none] at hkinds
  obtain ⟨hunsigned, hnegative, hfloat⟩ := hkinds
  have hfloat' : (cs.contains '.' && (Decimal.float? (String.ofList cs)).isSome) = false := by
    by_cases hpoint : '.' ∈ cs
    · simp [hfloat hpoint]
    · simp [hpoint]
  simp only [scalar, htrim, hfloat', hunsigned, hnegative, Bool.false_eq_true, if_false]

/-- A trimmed text that is a number is read as one. -/
theorem scalar_of_number {cs : List Char} (htrim : Text.trimBy Text.isBlank cs = cs)
    (h : IsNumber cs) : ∃ n, scalar cs = .number n := by
  unfold scalar
  simp only [htrim]
  split
  · exact ⟨_, rfl⟩
  · next hfloat =>
      split
      · exact ⟨_, rfl⟩
      · next hunsigned =>
          split
          · exact ⟨_, rfl⟩
          · next hnegative =>
              have hkinds := h.2
              simp only [hunsigned, hnegative, Option.isSome_none, Bool.false_eq_true,
                false_or] at hkinds
              simp [hkinds] at hfloat

/-- A floating-point text begins with a digit, a mark or the letter of a name. -/
theorem float?_eq_none {c : Char} {cs : List Char} (hdigit : Text.isDigit c = false)
    (hmark : c ∉ ['+', '-', '.']) (hname : Text.lowerAscii c ∉ ['i', 'n']) :
    Decimal.float? (String.ofList (c :: cs)) = none := by
  simp only [List.mem_cons, List.not_mem_nil, or_false, not_or] at hmark hname
  have hmagnitude : Decimal.magnitude? false (c :: cs) = none := by
    rw [Decimal.magnitude?, List.takeWhile_cons_of_neg (by simp [hdigit]),
      List.dropWhile_cons_of_neg (by simp [hdigit])]
    split
    next heq =>
      split at heq
      · next hpoint => exact absurd (List.cons.inj hpoint).1 hmark.2.2
      · cases heq
        rfl
  have hfirst : ∀ name : String, name.toList.head? ∈ [some 'i', some 'n'] →
      String.ofList ((c :: cs).map Text.lowerAscii) ≠ name := by
    rintro name hhead rfl
    simp [hname] at hhead
  rw [Decimal.float?, String.toList_ofList]
  split
  next heq =>
    split at heq
    · next hminus => exact absurd (List.cons.inj hminus).1 hmark.2.1
    · next hplus => exact absurd (List.cons.inj hplus).1 hmark.1
    · cases heq
      dsimp only
      rw [if_neg (not_or.mpr ⟨hfirst "inf" (by decide), hfirst "infinity" (by decide)⟩),
        if_neg (hfirst "nan" (by decide)), hmagnitude]
      rfl

/-- No number begins like a truth value, a quoted text, a list or a table. -/
theorem head_of_number {c : Char} {cs : List Char} (h : IsNumber (c :: cs)) :
    c ∉ ['t', 'f', '{', '[', '"', '\''] := by
  intro hc
  have hclass : ∀ c ∈ ['t', 'f', '{', '[', '"', '\''], Text.isDigit c = false ∧
      c ∉ ['+', '-', '.'] ∧ Text.lowerAscii c ∉ ['i', 'n'] := by
    simp only [List.forall_mem_cons, List.not_mem_nil, false_imp_iff, implies_true, and_true]
    decide
  obtain ⟨hdigit, hmark, hname⟩ := hclass c hc
  rcases h.2 with hunsigned | hnegative | ⟨-, hfloat⟩
  · have hnone : unsigned? (c :: cs) = none := by
      simp only [unsigned?]
      split
      · next hplus => simp [(List.cons.inj hplus).1] at hmark
      · simp [hdigit]
    rw [hnone] at hunsigned
    exact nomatch hunsigned
  · unfold negative? at hnegative
    split at hnegative
    · next hminus => simp [(List.cons.inj hminus).1] at hmark
    · exact nomatch hnegative
  · rw [float?_eq_none hdigit hmark hname] at hfloat
    exact nomatch hfloat

/-- A number is read to its end. -/
theorem value?_of_number {fuel : Nat} {c : Char} {cs : List Char}
    (htrim : Text.trimBy Text.isBlank (c :: cs) = c :: cs) (h : IsNumber (c :: cs)) :
    value? (fuel + 1) (c :: cs) = some (scalar (c :: cs), []) := by
  have hhead := head_of_number h
  simp only [List.mem_cons, List.not_mem_nil, or_false, not_or] at hhead
  have hall : ∀ d ∈ c :: cs, (!isSeparator d) = true := fun d hd => by simp [h.1 d hd]
  have htake := List.takeWhile_eq_self_iff.mpr hall
  have hdrop := (Text.dropWhile_eq_nil_iff _ _).mpr (List.all_eq_true.mpr hall)
  unfold value?
  rw [List.dropWhile_cons_of_neg (by simp [isSpace_head htrim])]
  dsimp only
  split
  · next heq => exact absurd (List.cons.inj heq).1 hhead.1
  · next heq => exact absurd (List.cons.inj heq).1 hhead.2.1
  · next heq => exact absurd (List.cons.inj heq).1 hhead.2.2.1
  · next heq => exact absurd (List.cons.inj heq).1 hhead.2.2.2.1
  · next heq => exact absurd (List.cons.inj heq).1 hhead.2.2.2.2.1
  · next heq => exact absurd (List.cons.inj heq).1 hhead.2.2.2.2.2
  · next heq => exact absurd (List.cons.inj heq).1 hhead.2.2.2.2.2
  · rw [htake, hdrop]
    rfl

/-! ### Values -/

/-- No scalar is null. -/
theorem scalar_ne_null (cs : List Char) : scalar cs ≠ .null := by
  unfold scalar
  dsimp only
  split
  · exact nofun
  · split
    · exact nofun
    · split <;> exact nofun

/-- No variable has the value null. -/
theorem value_ne_null (s : String) : value s ≠ .null := by
  unfold value
  split
  · next v hread =>
      unfold value? at hread
      obtain ⟨⟨u, rest⟩, hu, heq⟩ := Option.map_eq_some_iff.mp hread
      rw [Prod.mk.injEq] at heq
      obtain ⟨rfl, -⟩ := heq
      split at hu
      case h_8 => cases hu; exact scalar_ne_null _
      case h_7 => exact nomatch hu
      case h_1 | h_2 | h_6 => cases hu; exact nofun
      all_goals
        obtain ⟨⟨r, rest⟩, -, heq⟩ := Option.map_eq_some_iff.mp hu
        cases heq
        exact nofun
  · exact nofun

section Trimmed

variable {s : String} (hne : s ≠ "") (htrim : Text.trim s = s)

include hne htrim

/-- A text that reads as nothing else stands for itself. -/
theorem value_of_not_typed (hquoted : ¬ IsQuoted s) (h : ¬ IsTyped s) : value s = .string s := by
  have hlist := trimBy_eq_of_trim htrim
  rw [IsTyped] at h
  simp only [not_or] at h
  obtain ⟨htrue, hfalse, hnumber, hbracketed⟩ := h
  unfold value
  split
  · next v hread =>
      cases hcs : s.toList with
      | nil => exact absurd (String.toList_eq_nil_iff.mp hcs) hne
      | cons c cs =>
          rw [hcs] at hlist hread hnumber
          rcases value?_end hlist hread with ⟨heq, -⟩ | ⟨heq, -⟩ | ⟨rfl, -⟩ | ⟨rfl, -⟩ |
            ⟨q, hq, inner, heq⟩ | ⟨hseparators, rfl⟩
          · exact absurd (String.toList_inj.mp (hcs.trans heq)) htrue
          · exact absurd (String.toList_inj.mp (hcs.trans heq)) hfalse
          · exact absurd ⟨by simp [hcs], v, hcs ▸ hread⟩ hbracketed
          · exact absurd ⟨by simp [hcs], v, hcs ▸ hread⟩ hbracketed
          · exact absurd ⟨q, hq, inner, hcs.trans heq⟩ hquoted
          · rw [scalar_of_not_number hlist hseparators hnumber, ← hcs, String.ofList_toList]
  · rfl

/-- What reads as something else is no text. -/
theorem value_of_typed (h : IsTyped s) (t : String) : value s ≠ .string t := by
  have hlist := trimBy_eq_of_trim htrim
  rcases h with rfl | rfl | hnumber | ⟨hhead, v, hread⟩
  · exact (by decide +kernel : value "true" = .bool true) ▸ nofun
  · exact (by decide +kernel : value "false" = .bool false) ▸ nofun
  · cases hcs : s.toList with
    | nil => exact absurd (String.toList_eq_nil_iff.mp hcs) hne
    | cons c cs =>
        rw [hcs] at hlist hnumber
        obtain ⟨n, hn⟩ := scalar_of_number hlist hnumber
        rw [value, hcs, value?_of_number hlist hnumber, hn]
        exact nofun
  · cases hcs : s.toList with
    | nil => exact absurd (String.toList_eq_nil_iff.mp hcs) hne
    | cons c cs =>
        rw [hcs] at hlist hread hhead
        have hc : c = '[' ∨ c = '{' := by simpa using hhead
        rw [value, hcs, hread]
        rcases value?_end hlist hread with ⟨heq, -⟩ | ⟨heq, -⟩ | ⟨-, vs, rfl⟩ | ⟨-, fs, rfl⟩ |
          ⟨q, hq, inner, heq⟩ | ⟨hseparators, -⟩
        · rcases hc with rfl | rfl <;> exact absurd (List.cons.inj heq).1 (by decide)
        · rcases hc with rfl | rfl <;> exact absurd (List.cons.inj heq).1 (by decide)
        · exact nofun
        · exact nofun
        · obtain rfl := (List.cons.inj heq).1
          rcases hc with rfl | rfl <;> exact absurd hq (by decide)
        · have hseparator := hseparators c List.mem_cons_self
          rcases hc with rfl | rfl <;> exact absurd hseparator (by decide)

end Trimmed

/-! ### Texts in quotes -/

/-- How a character stands between quotes. -/
def escaped (c : Char) : List Char := if c = '"' ∨ c = '\\' then ['\\', c] else [c]

/-- A text in quotes. -/
def quote (s : String) : String := String.ofList ('"' :: (s.toList.flatMap escaped ++ ['"']))

/-- What was escaped is read back up to the closing quote. -/
theorem quoted?_escaped (cs : List Char) (fuel : Nat) (hfuel : cs.length < fuel)
    (read rest : List Char) :
    quoted? fuel read (cs.flatMap escaped ++ '"' :: rest) =
      some (String.ofList (read.reverse ++ cs), rest) := by
  induction cs generalizing fuel read with
  | nil =>
      obtain ⟨fuel, rfl⟩ := Nat.exists_eq_add_of_lt hfuel
      simp [quoted?]
  | cons c cs ih =>
      obtain ⟨fuel, rfl⟩ : ∃ n, fuel = n + 1 := ⟨fuel - 1, by simp at hfuel; omega⟩
      have hrest := ih fuel (by simpa using hfuel) (c :: read)
      rw [List.reverse_cons, List.append_assoc, List.singleton_append] at hrest
      rw [List.flatMap_cons, List.append_assoc]
      unfold escaped
      split
      · next hc =>
          have hescape (after : List Char) : Toml.escape? (c :: after) = some (c, after) := by
            rcases hc with rfl | rfl <;> rfl
          change quoted? (fuel + 1) read ('\\' :: c :: _) = _
          rw [quoted?, if_neg (by decide), if_pos rfl, hescape, Option.bind_some]
          exact hrest
      · next hc =>
          rw [not_or] at hc
          rw [List.singleton_append, quoted?, if_neg hc.1, if_neg hc.2]
          exact hrest

/-- Escaping does not shorten a text. -/
theorem length_le_escaped (cs : List Char) : cs.length ≤ (cs.flatMap escaped).length := by
  induction cs with
  | nil => exact Nat.le_refl 0
  | cons c cs ih =>
      have hc : 1 ≤ (escaped c).length := by
        unfold escaped
        split <;> simp
      rw [List.flatMap_cons, List.length_append, List.length_cons]
      omega

/-- Any text can be given in quotes. -/
theorem value_quote (s : String) : value (quote s) = .string s := by
  have hquoted := quoted?_escaped s.toList
    (('"' :: (s.toList.flatMap escaped ++ ['"'])).length + 1) (by
      have hlength := length_le_escaped s.toList
      simp only [List.length_cons, List.length_append, List.length_nil]
      omega) [] []
  have hread : value? ((quote s).length + 2) (quote s).toList = some (.string s, []) := by
    rw [quote, String.toList_ofList]
    unfold value?
    rw [List.dropWhile_cons_of_neg (by decide)]
    change Option.map _ (Option.map _ (quoted? _ [] (s.toList.flatMap escaped ++ ['"']))) = _
    rw [hquoted]
    simp
  rw [value, hread]

end IncidentRelay.Settings.Environment
