import IncidentRelay.Mail.Mailbox
import Mathlib.Data.List.Forall2

/-!
# Lists of recipients

What becomes of a list of recipients, told by its segments between the commas. Blank segments do not
count. The others are read one after the other, and the leftmost that cannot be read decides about
the whole list. How a single segment is read makes no difference to any of this.

## Main statements

* `recipientTexts_of_commas`: commas and blanks alone have no recipients in them.
* `readAll_of_faulty`, `readAll_of_no_faulty`: the leftmost segment that cannot be read is told, and
  without one all are read.
* `recipients_compose`: lists joined by a comma, and what single lists give.
-/

namespace IncidentRelay

namespace Mail

open Text

variable {ε μ : Type} (read : String → Except ε μ)

/-! ### Segments -/

/-- The segments that are not blank. -/
def filled (segs : List String) : List String := segs.filter fun s => !allBlank s

/-- The segment cannot be read: it is not blank, and there is no mailbox in it. -/
def Faulty (s : String) : Prop := allBlank s = false ∧ ∃ e, read (trim s) = .error e

/-- The texts of a list are those of its segments that are not blank. -/
theorem recipientTexts_eq (list : String) :
    recipientTexts list = (filled (split ',' list)).map trim := by
  have hfilled : ((· ≠ "") ∘ trim : String → Bool) = fun s => !allBlank s := by
    funext s
    rw [Bool.eq_iff_iff]
    simp [trim_eq_empty_iff]
  rw [recipientTexts, filled, List.filter_map, hfilled]

/-- A blank segment is left out. -/
theorem filled_cons_of_blank {s : String} (h : allBlank s = true) (segs : List String) :
    filled (s :: segs) = filled segs :=
  List.filter_cons_of_neg (by simp [h])

/-- A segment that is not blank is kept. -/
theorem filled_cons_of_filled {s : String} (h : allBlank s = false) (segs : List String) :
    filled (s :: segs) = s :: filled segs :=
  List.filter_cons_of_pos (by simp [h])

/-- Nothing is left if all segments are blank. -/
theorem filled_eq_nil_iff {segs : List String} :
    filled segs = [] ↔ ∀ s ∈ segs, allBlank s = true := by
  simp [filled]

/-- Commas and blanks alone have no recipients in them. -/
theorem recipientTexts_of_commas {list : String}
    (h : ∀ c ∈ list.toList, c = ',' ∨ isBlank c = true) : recipientTexts list = [] := by
  rw [recipientTexts_eq, List.map_eq_nil_iff, filled_eq_nil_iff]
  intro s hs
  obtain ⟨cs, hcs, rfl⟩ := List.mem_map.mp hs
  rw [allBlank, String.toList_ofList, List.all_eq_true]
  intro c hc
  obtain ⟨hmem, hne⟩ := mem_of_mem_segments hcs hc
  exact (h c hmem).resolve_left hne

/-! ### Reading -/

variable {read}

/-- Addresses are read one part after the other. -/
theorem readAll_append {xs : List String} {ms : List μ} (h : readAll read xs = .ok ms)
    (ys : List String) : readAll read (xs ++ ys) = (readAll read ys).map (ms ++ ·) := by
  induction xs generalizing ms with
  | nil =>
      obtain rfl : [] = ms := Except.ok.inj h
      cases hys : readAll read ys <;> simp [Except.map, hys]
  | cons x xs ih =>
      rw [readAll] at h
      cases hx : read x with
      | error e => simp [hx] at h
      | ok m =>
          cases hxs : readAll read xs with
          | error e => simp [hx, hxs] at h
          | ok ns =>
              obtain rfl : m :: ns = ms := by simpa [hx, hxs] using h
              rw [List.cons_append, readAll, hx, ih hxs]
              cases readAll read ys <;> rfl

/-- What is read is one mailbox for each text. -/
theorem readAll_eq_ok_iff {xs : List String} {ms : List μ} :
    readAll read xs = .ok ms ↔ List.Forall₂ (fun x m => read x = .ok m) xs ms := by
  induction xs generalizing ms with
  | nil => simp [readAll, eq_comm]
  | cons x xs ih =>
      simp only [List.forall₂_cons_left_iff, ← ih, readAll]
      cases read x with
      | error e => simp
      | ok m => cases readAll read xs <;> simp [eq_comm]

/-- If segments cannot be read, the leftmost of them is told. -/
theorem readAll_of_faulty {segs : List String} (h : ∃ s ∈ segs, Faulty read s) :
    ∃ front s back e, segs = front ++ s :: back ∧ (∀ t ∈ front, ¬ Faulty read t) ∧
      allBlank s = false ∧ read (trim s) = .error e ∧
      readAll read ((filled segs).map trim) = .error (.invalid (trim s) e) := by
  induction segs with
  | nil => simp at h
  | cons s rest ih =>
      by_cases hs : Faulty read s
      · obtain ⟨hfilled, e, he⟩ := hs
        refine ⟨[], s, rest, e, rfl, by simp, hfilled, he, ?_⟩
        rw [filled_cons_of_filled hfilled, List.map_cons, readAll, he]
      · have hrest : ∃ t ∈ rest, Faulty read t := by simpa [hs] using h
        obtain ⟨front, t, back, e, heq, hfront, hfilled, he, hread⟩ := ih hrest
        refine ⟨s :: front, t, back, e, congrArg (s :: ·) heq, by simpa [hs] using hfront, hfilled,
          he, ?_⟩
        cases hblank : allBlank s with
        | true => rw [filled_cons_of_blank hblank, hread]
        | false =>
            cases hm : read (trim s) with
            | error e => exact absurd ⟨hblank, e, hm⟩ hs
            | ok m => rw [filled_cons_of_filled hblank, List.map_cons, readAll, hm, hread]

/-- If all segments can be read that are not blank, they are. -/
theorem readAll_of_no_faulty {segs : List String} (h : ∀ s ∈ segs, ¬ Faulty read s) :
    ∃ ms, readAll read ((filled segs).map trim) = .ok ms := by
  induction segs with
  | nil => exact ⟨[], rfl⟩
  | cons s rest ih =>
      obtain ⟨hs, hrest⟩ := List.forall_mem_cons.mp h
      obtain ⟨ms, hms⟩ := ih hrest
      cases hblank : allBlank s with
      | true => exact ⟨ms, by rw [filled_cons_of_blank hblank, hms]⟩
      | false =>
          cases hm : read (trim s) with
          | error e => exact absurd ⟨hblank, e, hm⟩ hs
          | ok m =>
              refine ⟨m :: ms, ?_⟩
              rw [filled_cons_of_filled hblank, List.map_cons, readAll, hm, hms]

/-! ### Recipients -/

/-- Lists with the same segments have the same recipients. -/
theorem recipientsBy_congr {a b : String} (h : recipientTexts a = recipientTexts b) :
    recipientsBy read a = recipientsBy read b := by
  rw [recipientsBy, recipientsBy, h]

/-- The first address that cannot be read fails the list. -/
theorem recipientsBy_of_error {list : String} {e : RecipientError ε}
    (h : readAll read (recipientTexts list) = .error e) : recipientsBy read list = .error e := by
  rw [recipientsBy, h]

/-- A list without addresses fails. -/
theorem recipientsBy_of_nil {list : String} (h : readAll read (recipientTexts list) = .ok []) :
    recipientsBy read list = .error .nobody := by
  rw [recipientsBy, h]

/-- There are recipients if all texts are read, and there is one. -/
theorem recipientsBy_eq_ok_iff {list : String} {ms : List μ} :
    recipientsBy read list = .ok ms ↔ readAll read (recipientTexts list) = .ok ms ∧ ms ≠ [] := by
  rw [recipientsBy]
  cases readAll read (recipientTexts list) with
  | error e => simp
  | ok ns =>
      cases ns with
      | nil => simp
      | cons n ns =>
          constructor
          · rintro heq
            exact ⟨heq, by rintro rfl; cases heq⟩
          · exact And.left

/-- What can become of the segments of a list: the leftmost that cannot be read is told, or there is
nobody, or there is a mailbox for each that is not blank. -/
inductive Verdict (read : String → Except ε μ) (segs : List String) :
    Except (RecipientError ε) (List μ) → Prop
  | invalid (front : List String) (s : String) (back : List String) (e : ε)
      (hsegs : segs = front ++ s :: back) (hfront : ∀ t ∈ front, ¬ Faulty read t)
      (hfilled : allBlank s = false) (he : read (trim s) = .error e) :
      Verdict read segs (.error (.invalid (trim s) e))
  | nobody (hblank : ∀ s ∈ segs, allBlank s = true) : Verdict read segs (.error .nobody)
  | read (ms : List μ) (hread : ∀ s ∈ segs, ¬ Faulty read s) (hne : ms ≠ [])
      (hall : List.Forall₂ (fun s m => read (trim s) = .ok m) (filled segs) ms) :
      Verdict read segs (.ok ms)

/-- What comes of a list is a verdict on its segments. -/
theorem Verdict.ofList (read : String → Except ε μ) (list : String) :
    Verdict read (split ',' list) (recipientsBy read list) := by
  by_cases h : ∃ s ∈ split ',' list, Faulty read s
  · obtain ⟨front, s, back, e, hsegs, hfront, hfilled, he, hread⟩ := readAll_of_faulty h
    rw [← recipientTexts_eq] at hread
    rw [recipientsBy_of_error hread]
    exact .invalid front s back e hsegs hfront hfilled he
  · have hnone : ∀ s ∈ split ',' list, ¬ Faulty read s := by simpa using h
    obtain ⟨ms, hms⟩ := readAll_of_no_faulty hnone
    have hall := List.forall₂_map_left_iff.mp (readAll_eq_ok_iff.mp hms)
    rw [← recipientTexts_eq] at hms
    cases ms with
    | nil =>
        have hempty : filled (split ',' list) = [] := List.forall₂_nil_right_iff.mp hall
        rw [recipientsBy_of_nil hms]
        exact .nobody (filled_eq_nil_iff.mp hempty)
    | cons m ms =>
        have hne : m :: ms ≠ [] := List.cons_ne_nil m ms
        rw [recipientsBy_eq_ok_iff.mpr ⟨hms, hne⟩]
        exact .read (m :: ms) hnone hne hall

namespace Verdict

variable {segs : List String} {r : Except (RecipientError ε) (List μ)}

/-- The leftmost faulty segment decides. -/
theorem of_faulty (h : Verdict read segs r) (hfaulty : ∃ s ∈ segs, Faulty read s) :
    ∃ front s back e, segs = front ++ s :: back ∧ (∀ t ∈ front, ¬ Faulty read t) ∧
      allBlank s = false ∧ read (trim s) = .error e ∧ r = .error (.invalid (trim s) e) := by
  obtain ⟨t, ht, hbad⟩ := hfaulty
  cases h with
  | invalid front s back e hsegs hfront hfilled he =>
      exact ⟨front, s, back, e, hsegs, hfront, hfilled, he, rfl⟩
  | nobody hblank => exact absurd (hblank t ht) (by simp [hbad.1])
  | read ms hread hne hall => exact absurd hbad (hread t ht)

/-- There is nobody if and only if all segments are blank. -/
theorem nobody_iff (h : Verdict read segs r) :
    r = .error .nobody ↔ ∀ s ∈ segs, allBlank s = true := by
  cases h with
  | invalid front s back e hsegs hfront hfilled he =>
      refine ⟨nofun, fun hblank => ?_⟩
      have hs : s ∈ segs := by simp [hsegs]
      exact absurd (hblank s hs) (by simp [hfilled])
  | nobody hblank => exact ⟨fun _ => hblank, fun _ => rfl⟩
  | read ms hread hne hall =>
      refine ⟨nofun, fun hblank => ?_⟩
      rw [filled_eq_nil_iff.mpr hblank, List.forall₂_nil_left_iff] at hall
      exact absurd hall hne

/-- There are recipients if and only if a segment is not blank, and all that are not can be read. -/
theorem ok_iff (h : Verdict read segs r) :
    (∃ ms, r = .ok ms) ↔
      (∀ s ∈ segs, ¬ Faulty read s) ∧ ∃ s ∈ segs, allBlank s = false := by
  constructor
  · rintro ⟨ms, rfl⟩
    cases h with
    | read ms hread hne hall =>
        refine ⟨hread, ?_⟩
        by_contra hnone
        have hempty : filled segs = [] := filled_eq_nil_iff.mpr (by simpa using hnone)
        rw [hempty, List.forall₂_nil_left_iff] at hall
        exact hne hall
  · rintro ⟨hread, t, ht, hfilled⟩
    cases h with
    | invalid front s back e hsegs hfront hs he =>
        exact absurd ⟨hs, e, he⟩ (hread s (by simp [hsegs]))
    | nobody hblank => exact absurd (hblank t ht) (by simp [hfilled])
    | read ms hread hne hall => exact ⟨ms, rfl⟩

end Verdict

/-- Lists of recipients compose, whatever reads the single segments. The recipients of two lists
joined by a comma are those of the first and then those of the second. A list of commas and blanks
alone adds nothing to another one, in front of it or behind it. If there are segments that cannot be
read, the leftmost of them is the error of the whole list, and if all segments are blank the error
is that there is nobody. In every other case there are recipients: at least one, and one for each
segment that is not blank. -/
theorem recipients_compose (read : String → Except ε μ) (a b : String) :
    (∀ ms ns, recipientsBy read a = .ok ms → recipientsBy read b = .ok ns →
      recipientsBy read (a ++ "," ++ b) = .ok (ms ++ ns)) ∧
    ((∀ c ∈ a.toList, c = ',' ∨ isBlank c = true) →
      recipientsBy read (a ++ "," ++ b) = recipientsBy read b ∧
      recipientsBy read (b ++ "," ++ a) = recipientsBy read b) ∧
    ((∃ s ∈ split ',' a, Faulty read s) →
      ∃ front s back e, split ',' a = front ++ s :: back ∧ (∀ t ∈ front, ¬ Faulty read t) ∧
        allBlank s = false ∧ read (trim s) = .error e ∧
        recipientsBy read a = .error (.invalid (trim s) e)) ∧
    (recipientsBy read a = .error .nobody ↔ ∀ s ∈ split ',' a, allBlank s = true) ∧
    ((∃ ms, recipientsBy read a = .ok ms) ↔
      (∀ s ∈ split ',' a, ¬ Faulty read s) ∧ ∃ s ∈ split ',' a, allBlank s = false) ∧
    ∀ ms, recipientsBy read a = .ok ms → ms ≠ [] ∧
      List.Forall₂ (fun s m => read (trim s) = .ok m) (filled (split ',' a)) ms := by
  have hverdict := Verdict.ofList read a
  refine ⟨?_, ?_, ?_, ?_, ?_, ?_⟩
  · intro ms ns ha hb
    obtain ⟨ha, hne⟩ := recipientsBy_eq_ok_iff.mp ha
    obtain ⟨hb, -⟩ := recipientsBy_eq_ok_iff.mp hb
    refine recipientsBy_eq_ok_iff.mpr ⟨?_, List.append_ne_nil_of_left_ne_nil hne ns⟩
    rw [recipientTexts_append, readAll_append ha, hb]
    rfl
  · intro ha
    have hnone := recipientTexts_of_commas ha
    refine ⟨recipientsBy_congr ?_, recipientsBy_congr ?_⟩
    · rw [recipientTexts_append, hnone, List.nil_append]
    · rw [recipientTexts_append, hnone, List.append_nil]
  · exact hverdict.of_faulty
  · exact hverdict.nobody_iff
  · exact hverdict.ok_iff
  · intro ms hms
    rw [hms] at hverdict
    cases hverdict with
    | read ms hread hne hall => exact ⟨hne, hall⟩

/-- Two lists of addresses, and a list of commas and blanks between them. -/
theorem recipients_compose_pair :
    let ops : Mailbox := { user := "ops", domain := "example.com" }
    let dba : Mailbox := { name := some "DBA", user := "dba", domain := "example.com" }
    parseRecipients (" ops@example.com,, ops@example.com" ++ "," ++
        (" , \t" ++ "," ++ "DBA <dba@example.com> ")) = .ok [ops, ops, dba] := by
  intro ops dba
  have hops : parseRecipients " ops@example.com,, ops@example.com" = .ok [ops, ops] := by
    decide +kernel
  have hdba : parseRecipients "DBA <dba@example.com> " = .ok [dba] := by
    decide +kernel
  have hcommas : (" , \t".toList.all fun c => c = ',' || isBlank c) = true := by decide
  obtain ⟨-, hblank, -⟩ := recipients_compose Mailbox.read " , \t" "DBA <dba@example.com> "
  obtain ⟨hcompose, -⟩ := recipients_compose Mailbox.read " ops@example.com,, ops@example.com"
    (" , \t" ++ "," ++ "DBA <dba@example.com> ")
  exact hcompose _ _ hops ((hblank (by simpa using hcommas)).1.trans hdba)

end Mail

end IncidentRelay
