import IncidentRelay.Incident
import Mathlib.Data.List.Basic

/-!
# The status of a payload

Which member of a payload says whether the trouble is over. The status fields come in an order of
importance, and several members of one payload can belong to the same field, since names are
compared without regard to case. The rule is that the first member with a text decides. What
decides is the first member of its field, if it has a text: a member without one hides those of its
field behind it.

## Main statements

* `statusText?_eq_some_iff`: what is read of a field is the text of its first member.
* `isResolved_iff_of_leads`: the first field whose first member has a text decides.
* `isResolved_iff`: so the rule is followed where no member without a text hides one with a text.
* `isResolved_of_hidden`: and where one does, a payload that is resolved by the rule is not.
-/

namespace IncidentRelay

open Json (Value)

/-- Whether a member belongs to a field. -/
def isNamed (field : String) (m : String × Value) : Bool := Text.equalsIgnoringCase m.1 field

/-- The first member of a field with a text has this one. Members without a text do not count. -/
def FirstText (content : Content) (field status : String) : Prop :=
  ∃ front name back, content = front ++ (name, .string status) :: back ∧
    isNamed field (name, .string status) = true ∧
    ∀ m ∈ front, isNamed field m = true → m.2.asString? = none

/-- The first member of a field has this text. -/
def LeadingText (content : Content) (field status : String) : Prop :=
  ∃ front name back, content = front ++ (name, .string status) :: back ∧
    isNamed field (name, .string status) = true ∧ ∀ m ∈ front, isNamed field m = false

/-- A text decides that is shown by a field while no more important field shows one. -/
def Decides (shows : String → String → Prop) (status : String) : Prop :=
  ∃ front field back, statusFields = front ++ field :: back ∧ shows field status ∧
    ∀ f ∈ front, ∀ t, ¬ shows f t

/-- No member of a field without a text comes before one with a text. -/
def Unhidden (content : Content) (field : String) : Prop :=
  content.Pairwise fun m n => isNamed field m = true → m.2.asString? = none →
    isNamed field n = true → n.2.asString? = none

instance (content : Content) (field : String) : Decidable (Unhidden content field) :=
  inferInstanceAs (Decidable (List.Pairwise _ _))

variable {content : Content} {field status : String}

/-- A value shows a status text if it is that text. -/
theorem asString?_eq_some_iff {v : Value} : v.asString? = some status ↔ v = .string status := by
  cases v <;> simp [Value.asString?]

/-- What is read of a field is the text of its first member. -/
theorem statusText?_eq_some_iff :
    statusText? content field = some status ↔ LeadingText content field status := by
  unfold statusText? LeadingText
  rw [Option.bind_eq_some_iff]
  constructor
  · rintro ⟨⟨name, v⟩, hfind, htext⟩
    obtain rfl := asString?_eq_some_iff.mp htext
    obtain ⟨hname, front, back, hcontent, hfront⟩ := List.find?_eq_some_iff_append.mp hfind
    exact ⟨front, name, back, hcontent, hname, fun m hm => by simpa [isNamed] using hfront m hm⟩
  · rintro ⟨front, name, back, hcontent, hname, hfront⟩
    refine ⟨(name, .string status), ?_, rfl⟩
    refine List.find?_eq_some_iff_append.mpr ⟨hname, front, back, hcontent, ?_⟩
    intro m hm
    simpa [isNamed] using hfront m hm

/-- A field has no status text if no text leads it. -/
theorem statusText?_eq_none_iff :
    statusText? content field = none ↔ ∀ t, ¬ LeadingText content field t := by
  rw [Option.eq_none_iff_forall_ne_some]
  exact forall_congr' fun t => not_congr statusText?_eq_some_iff

/-- The first status field whose first member has a text decides. -/
theorem isResolved_iff_of_leads :
    isResolved content = true ↔
      ∃ status, Decides (LeadingText content) status ∧
        Text.equalsIgnoringCase status "resolved" = true := by
  have hdecides (status : String) : statusFields.findSome? (statusText? content) = some status ↔
      Decides (LeadingText content) status := by
    rw [List.findSome?_eq_some_iff]
    unfold Decides
    simp only [statusText?_eq_some_iff, statusText?_eq_none_iff]
  unfold isResolved
  constructor
  · intro h
    split at h
    · next status hsome => exact ⟨status, (hdecides status).mp hsome, h⟩
    · exact absurd h Bool.false_ne_true
  · rintro ⟨status, hd, hresolved⟩
    rw [(hdecides status).mpr hd]
    exact hresolved

/-- A text that leads its field is the first of it. -/
theorem LeadingText.firstText (h : LeadingText content field status) :
    FirstText content field status := by
  obtain ⟨front, name, back, hcontent, hname, hfront⟩ := h
  refine ⟨front, name, back, hcontent, hname, ?_⟩
  intro m hm hnamed
  exact absurd hnamed (by simp [hfront m hm])

/-- Where nothing is hidden, the first text of a field leads it. -/
theorem Unhidden.leadingText (hu : Unhidden content field) (h : FirstText content field status) :
    LeadingText content field status := by
  obtain ⟨front, name, back, rfl, hname, hfront⟩ := h
  refine ⟨front, name, back, rfl, hname, ?_⟩
  intro m hm
  by_contra hnamed
  have hnamed : isNamed field m = true := by simpa using hnamed
  have hpair := (List.pairwise_append.mp hu).2.2 m hm _ List.mem_cons_self
  exact absurd (hpair hnamed (hfront m hm hnamed) hname) (by simp [Value.asString?])

/-- Fields that show the same texts let the same text decide. -/
theorem Decides.congr {shows shows' : String → String → Prop}
    (h : ∀ field ∈ statusFields, ∀ t, shows field t ↔ shows' field t) (hd : Decides shows status) :
    Decides shows' status := by
  obtain ⟨front, field, back, hfields, hshown, hfront⟩ := hd
  refine ⟨front, field, back, hfields, (h field (by simp [hfields]) status).mp hshown, ?_⟩
  intro f hf t hshown
  exact hfront f hf t ((h f (by simp [hfields, hf]) t).mpr hshown)

/-- The first field decides whose first member has a text. This is the rule that the first member
with a text decides, in the order of the fields and within a field in the order of the members,
wherever no member without a text comes before one of the same field with a text. -/
theorem isResolved_iff (content : Content) :
    (isResolved content = true ↔
      ∃ status, Decides (LeadingText content) status ∧
        Text.equalsIgnoringCase status "resolved" = true) ∧
      ((∀ field ∈ statusFields, Unhidden content field) →
        (isResolved content = true ↔
          ∃ status, Decides (FirstText content) status ∧
            Text.equalsIgnoringCase status "resolved" = true)) := by
  refine ⟨isResolved_iff_of_leads, ?_⟩
  intro hunhidden
  have hsame : ∀ field ∈ statusFields, ∀ t,
      LeadingText content field t ↔ FirstText content field t := fun field hfield t =>
    ⟨LeadingText.firstText, (hunhidden field hfield).leadingText⟩
  rw [isResolved_iff_of_leads]
  constructor
  · rintro ⟨status, hd, hresolved⟩
    exact ⟨status, hd.congr hsame, hresolved⟩
  · rintro ⟨status, hd, hresolved⟩
    exact ⟨status, hd.congr fun field hfield t => (hsame field hfield t).symm, hresolved⟩

/-- A status without a text leaves the decision to the next field. -/
theorem isResolved_iff_fallback :
    let content : Content := [("State", .string "Resolved"), ("status", .nat 3)]
    isResolved content = true ↔
      ∃ status, Decides (FirstText content) status ∧
        Text.equalsIgnoringCase status "resolved" = true :=
  (isResolved_iff _).2 (by decide)

/-- A member without a text hides the text of its field behind it: by the rule this payload is
resolved, and it is not taken as resolved. -/
theorem isResolved_of_hidden :
    let content : Content := [("Status", .nat 3), ("status", .string "resolved")]
    (∃ status, Decides (FirstText content) status ∧
        Text.equalsIgnoringCase status "resolved" = true) ∧
      isResolved content = false := by
  refine ⟨⟨"resolved", ⟨[], "status", _, rfl, ⟨[("Status", .nat 3)], "status", [], rfl, ?_, ?_⟩,
    nofun⟩, ?_⟩, ?_⟩
  all_goals decide

end IncidentRelay
