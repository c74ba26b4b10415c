import IncidentRelay.Proofs.Settings.Document
import IncidentRelay.Settings.CommandLine

/-!
# The layer of the command line

The command line gives five settings, the options that were not given no setting at all. Above the
settings that it gives its layer has sections, and nothing anywhere else.

## Main statements

* `CommandLine.tidy_document`: the layer of a command line is tidy.
* `CommandLine.at?_document`: the layer has the settings that the options give.
-/

namespace IncidentRelay.CommandLine

open Json (Value)
open Settings (at? at?_object at?_of_not_object Tidy)

/-! ### Members that may be missing -/

/-- What is given is what has a value. -/
theorem mem_given {members : List (String × Option Value)} {k : String} {v : Value} :
    (k, v) ∈ given members ↔ (k, some v) ∈ members := by
  constructor
  · intro h
    obtain ⟨⟨name, value⟩, hmem, heq⟩ := List.mem_filterMap.mp h
    obtain ⟨u, rfl, heq⟩ := Option.map_eq_some_iff.mp heq
    cases heq
    exact hmem
  · exact fun h => List.mem_filterMap.mpr ⟨_, h, rfl⟩

/-- A member that has a value is under its name. -/
theorem get?_given {members : List (String × Option Value)}
    (h : members.Pairwise (·.1 ≠ ·.1)) (k : String) :
    Table.get? (given members) k = (Table.get? members k).join := by
  induction members with
  | nil => rfl
  | cons e rest ih =>
      obtain ⟨name, value⟩ := e
      have hrest := ih (List.pairwise_cons.mp h).2
      rw [Table.get?]
      cases value with
      | none =>
          by_cases hk : name = k
          · subst hk
            rw [Table.get?_rest h] at hrest
            rw [if_pos rfl]
            exact hrest
          · rw [if_neg hk]
            exact hrest
      | some v =>
          change Table.get? ((name, v) :: given rest) k = _
          rw [Table.get?, hrest]
          split <;> rfl

/-- Members in order that are tidy make a tidy object. -/
theorem tidy_given {members : List (String × Option Value)} (hordered : Table.Ordered members)
    (h : ∀ e ∈ members, ∀ v ∈ e.2, Tidy v) : Tidy (.object (given members)) := by
  refine .object ?_ fun e he => h _ (mem_given.mp he) _ rfl
  refine List.Pairwise.filterMap _ (fun d d' hlt e he e' he' => ?_) hordered
  obtain ⟨v, -, rfl⟩ := Option.map_eq_some_iff.mp he
  obtain ⟨v', -, rfl⟩ := Option.map_eq_some_iff.mp he'
  exact hlt

/-- A value that may be given and is no object. -/
def IsLeaf (o : Option Value) : Prop := ∀ v ∈ o, v.asObject? = none

/-- What is made of an optional value, and is no object, is a leaf. -/
theorem isLeaf_map {α : Type} {f : α → Value} (h : ∀ a, (f a).asObject? = none) (o : Option α) :
    IsLeaf (o.map f) := by
  intro v hv
  obtain ⟨a, -, rfl⟩ := Option.map_eq_some_iff.mp hv
  exact h a

/-- A leaf has no parts. -/
theorem IsLeaf.bind_at? {o : Option Value} (h : IsLeaf o) (path : List String) :
    o.bind (at? · path) = if path = [] then o else none := by
  cases o with
  | none => split <;> rfl
  | some v =>
      cases path with
      | nil => rfl
      | cons k path => exact at?_of_not_object (h v rfl) k path

/-- The member of a table of leaves is a leaf. -/
theorem IsLeaf.join_get? {members : List (String × Option Value)}
    (h : ∀ e ∈ members, IsLeaf e.2) (k : String) : IsLeaf (Table.get? members k).join := by
  intro v hv
  exact h _ (Table.mem_of_get? (Option.join_eq_some_iff.mp hv)) v rfl

/-- A section of settings, which is there if one of them was given. -/
def section? (members : List (String × Option Value)) : Option Value :=
  if given members = [] then none else some (.object (given members))

/-- The part of a section that a path leads to is one of its leaves. -/
theorem at?_section? {members : List (String × Option Value)} (hordered : Table.Ordered members)
    (hleaf : ∀ e ∈ members, IsLeaf e.2) (k : String) (path : List String) :
    (section? members).bind (at? · (k :: path)) =
      if path = [] then (Table.get? members k).join else none := by
  rw [← (IsLeaf.join_get? hleaf k).bind_at?, ← get?_given hordered.names_ne, section?]
  split
  · next hempty => rw [hempty]; rfl
  · rfl

/-- A section as a whole is an object, if there is one. -/
theorem at?_section?_nil (members : List (String × Option Value)) :
    (section? members).bind (at? · []) = none ∨
      ∃ fs, (section? members).bind (at? · []) = some (.object fs) := by
  unfold section?
  split
  · exact .inl rfl
  · exact .inr ⟨_, rfl⟩

/-- A section of leaves is tidy. -/
theorem tidy_section? {members : List (String × Option Value)} (hordered : Table.Ordered members)
    (hleaf : ∀ e ∈ members, IsLeaf e.2) : ∀ v ∈ section? members, Tidy v := by
  intro v hv
  rw [section?] at hv
  split at hv
  · exact nomatch hv
  · cases hv
    exact tidy_given hordered fun e he v hv => .leaf (hleaf e he v hv)

/-! ### The settings of the command line -/

variable (c : CommandLine)

/-- The members of the listener's section. -/
def serverMembers : List (String × Option Value) :=
  [("host", c.host.map .string), ("port", c.port.map .nat)]

/-- The members of the section of on-call escalation. -/
def onCallMembers : List (String × Option Value) :=
  [("enable", c.onCallEnable.map .bool), ("wait_minutes", c.onCallWaitMinutes.map .nat)]

/-- The members of the layer. -/
def members : List (String × Option Value) :=
  [("log_level", c.logLevel.map .string), ("oncall", section? c.onCallMembers),
   ("server", section? c.serverMembers)]

/-- The document of a command line has the members that are given. -/
theorem document_eq : c.document = .object (given c.members) := rfl

theorem ordered_serverMembers : Table.Ordered c.serverMembers :=
  List.pairwise_pair.mpr (by decide : "host" < "port")

theorem ordered_onCallMembers : Table.Ordered c.onCallMembers :=
  List.pairwise_pair.mpr (by decide : "enable" < "wait_minutes")

theorem ordered_members : Table.Ordered c.members := by
  simp only [members, Table.Ordered, List.pairwise_cons, List.forall_mem_cons, List.not_mem_nil,
    false_imp_iff, implies_true, List.Pairwise.nil, and_true]
  decide

theorem leaf_serverMembers : ∀ e ∈ c.serverMembers, IsLeaf e.2 := by
  refine List.forall_mem_cons.mpr ⟨?_, List.forall_mem_singleton.mpr ?_⟩
  · exact isLeaf_map (fun _ => rfl) _
  · exact isLeaf_map (fun _ => rfl) _

theorem leaf_onCallMembers : ∀ e ∈ c.onCallMembers, IsLeaf e.2 := by
  refine List.forall_mem_cons.mpr ⟨?_, List.forall_mem_singleton.mpr ?_⟩
  · exact isLeaf_map (fun _ => rfl) _
  · exact isLeaf_map (fun _ => rfl) _

/-- The layer of a command line is tidy. -/
theorem tidy_document : Tidy c.document := by
  refine tidy_given c.ordered_members ?_
  simp only [List.forall_mem_cons, List.not_mem_nil, false_imp_iff, implies_true, and_true]
  exact ⟨fun v hv => .leaf (isLeaf_map (fun _ => rfl) _ v hv),
    tidy_section? c.ordered_onCallMembers c.leaf_onCallMembers,
    tidy_section? c.ordered_serverMembers c.leaf_serverMembers⟩

/-- What the options give at the end of a path. -/
def sets? (path : List String) : Option Value :=
  if path = ["log_level"] then c.logLevel.map .string
  else if path = ["server", "host"] then c.host.map .string
  else if path = ["server", "port"] then c.port.map .nat
  else if path = ["oncall", "enable"] then c.onCallEnable.map .bool
  else if path = ["oncall", "wait_minutes"] then c.onCallWaitMinutes.map .nat
  else none

theorem get?_members (name : String) :
    Table.get? (given c.members) name = (Table.get? c.members name).join :=
  get?_given c.ordered_members.names_ne name

/-- What a command line sets of the log level is in its document. -/
theorem at?_logLevel (path : List String) :
    at? c.document ("log_level" :: path) = c.sets? ("log_level" :: path) := by
  rw [document_eq, at?_object, get?_members]
  change (c.logLevel.map Value.string).bind (at? · path) = _
  rw [(isLeaf_map (fun _ => rfl) c.logLevel).bind_at?]
  cases path <;> rfl

/-- What a command line sets of on-call is in its document. -/
theorem at?_onCall (k : String) (path : List String) :
    at? c.document ("oncall" :: k :: path) = c.sets? ("oncall" :: k :: path) := by
  rw [document_eq, at?_object, get?_members]
  change (section? c.onCallMembers).bind (at? · (k :: path)) = _
  rw [at?_section? c.ordered_onCallMembers c.leaf_onCallMembers]
  by_cases hpath : path = []
  · subst hpath
    by_cases henable : k = "enable"
    · subst henable; rfl
    · by_cases hwait : k = "wait_minutes"
      · subst hwait; rfl
      · simp [sets?, onCallMembers, Table.get?, henable, hwait, Ne.symm henable, Ne.symm hwait]
  · simp [sets?, hpath]

/-- What a command line sets of the server is in its document. -/
theorem at?_server (k : String) (path : List String) :
    at? c.document ("server" :: k :: path) = c.sets? ("server" :: k :: path) := by
  rw [document_eq, at?_object, get?_members]
  change (section? c.serverMembers).bind (at? · (k :: path)) = _
  rw [at?_section? c.ordered_serverMembers c.leaf_serverMembers]
  by_cases hpath : path = []
  · subst hpath
    by_cases hhost : k = "host"
    · subst hhost; rfl
    · by_cases hport : k = "port"
      · subst hport; rfl
      · simp [sets?, serverMembers, Table.get?, hhost, hport, Ne.symm hhost, Ne.symm hport]
  · simp [sets?, hpath]

/-- Nothing else is set, and nothing else is in the document. -/
theorem at?_other {name : String} (hlogLevel : name ≠ "log_level") (honCall : name ≠ "oncall")
    (hserver : name ≠ "server") (path : List String) :
    at? c.document (name :: path) = c.sets? (name :: path) := by
  rw [document_eq, at?_object, get?_members]
  simp only [members, Table.get?, if_neg hlogLevel.symm, if_neg honCall.symm, if_neg hserver.symm]
  simp [sets?, hlogLevel, honCall, hserver]

/-- Away from the sections that it mentions, the layer has the settings that the options give. -/
theorem at?_document (path : List String) :
    at? c.document path = c.sets? path ∨
      path ∈ [[], ["oncall"], ["server"]] ∧ ∃ fs, at? c.document path = some (.object fs) := by
  rcases path with - | ⟨name, path⟩
  · exact .inr ⟨by decide, _, rfl⟩
  by_cases hlogLevel : name = "log_level"
  · rw [hlogLevel]
    exact .inl (c.at?_logLevel path)
  by_cases honCall : name = "oncall"
  · rw [honCall]
    rcases path with - | ⟨k, path⟩
    · rw [document_eq, at?_object, get?_members]
      exact (at?_section?_nil c.onCallMembers).imp_right fun h => ⟨by decide, h⟩
    · exact .inl (c.at?_onCall k path)
  by_cases hserver : name = "server"
  · rw [hserver]
    rcases path with - | ⟨k, path⟩
    · rw [document_eq, at?_object, get?_members]
      exact (at?_section?_nil c.serverMembers).imp_right fun h => ⟨by decide, h⟩
    · exact .inl (c.at?_server k path)
  exact .inl (c.at?_other hlogLevel honCall hserver path)

end IncidentRelay.CommandLine
