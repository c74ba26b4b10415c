import IncidentRelay.Proofs.Tables
import IncidentRelay.Settings.Layer
import Mathlib.Data.List.Induction

/-!
# Values in documents

Names lead from a document to a value inside of it. A document is tidy if each of its objects has
its names in order, so that there is one way for names to go. In tidy documents that are laid over
each other, names lead to the value of the uppermost document that has one there, unless the way is
barred by a value that is no object.

## Main statements

* `mem_leaves`: the ways that end in no object can be listed.
* `Tidy.merge`: tidy documents stay tidy when they are laid over each other.
* `at?_merge`: the value at the end of a way through two documents.
* `at?_layers`: the value at the end of a way through many documents is that of the uppermost one.
-/

namespace IncidentRelay.Settings

open Json (Fields Value)
open Layer (merge mergeFields)

/-! ### Ways through a document -/

/-- A value with members is an object. -/
theorem eq_object {v : Value} {fs : Fields} (h : v.asObject? = some fs) : v = .object fs := by
  cases v with
  | object => exact congrArg Value.object (Option.some.inj h)
  | null | bool | number | string | array => exact nomatch h

/-- The value that names lead to. -/
def at? (v : Value) : List String → Option Value
  | [] => some v
  | k :: path => (v.asObject?.bind (Table.get? · k)).bind (at? · path)

theorem at?_object (fs : Fields) (k : String) (path : List String) :
    at? (.object fs) (k :: path) = (Table.get? fs k).bind (at? · path) := rfl

/-- What is no object has no parts. -/
theorem at?_of_not_object {v : Value} (h : v.asObject? = none) (k : String) (path : List String) :
    at? v (k :: path) = none := by
  simp only [at?, h, Option.bind_none]

/-- A path in two parts is followed one part after the other. -/
theorem at?_append (v : Value) (path rest : List String) :
    at? v (path ++ rest) = (at? v path).bind (at? · rest) := by
  induction path generalizing v with
  | nil => rfl
  | cons k path ih => simp only [List.cons_append, at?, Option.bind_assoc, ih]

/-- Whether a way that enters a document meets nothing but objects before its end. -/
def IsOpen : Value → List String → Prop
  | _, [] => True
  | v, k :: path => ∃ fs, v = .object fs ∧ ∀ u, Table.get? fs k = some u → IsOpen u path

/-- A way is open if every part of it leads to an object, if to anything. -/
theorem isOpen_of_sections {v : Value} {path : List String}
    (h : ∀ before k after, path = before ++ k :: after →
      ∀ u, at? v before = some u → ∃ fs, u = .object fs) : IsOpen v path := by
  induction path generalizing v with
  | nil => trivial
  | cons k path ih =>
      obtain ⟨fs, rfl⟩ := h [] k path rfl v rfl
      refine ⟨fs, rfl, fun u hu => ih fun before k' after hpath w hw => ?_⟩
      refine h (k :: before) k' after (by rw [hpath]; rfl) w ?_
      rw [at?_object, hu]
      exact hw

mutual

/-- The ways to the values in a document that are no objects. -/
def leaves : Value → List (List String)
  | .object fs => leavesOf fs
  | _ => [[]]

/-- The ways to the values below members that are no objects. -/
def leavesOf : List (String × Value) → List (List String)
  | [] => []
  | (k, v) :: rest => (leaves v).map (k :: ·) ++ leavesOf rest

end

/-- The leaves of a member are leaves of the object. -/
theorem mem_leavesOf {fs : Fields} {k : String} {v : Value} {path : List String}
    (hget : Table.get? fs k = some v) (hpath : path ∈ leaves v) : k :: path ∈ leavesOf fs := by
  induction fs with
  | nil => exact nomatch hget
  | cons e rest ih =>
      obtain ⟨name, w⟩ := e
      rw [leavesOf, List.mem_append]
      rw [Table.get?] at hget
      split at hget
      · next hname =>
          cases hget
          subst hname
          exact .inl (List.mem_map.mpr ⟨path, hpath, rfl⟩)
      · exact .inr (ih hget)

/-- Every way that ends in no object is one of the ways to such values. -/
theorem mem_leaves {v u : Value} {path : List String} (hat : at? v path = some u)
    (hleaf : u.asObject? = none) : path ∈ leaves v := by
  induction path generalizing v with
  | nil =>
      obtain rfl := Option.some.inj hat
      cases v with
      | object => exact nomatch hleaf
      | null | bool | number | string | array => simp [leaves]
  | cons k path ih =>
      obtain ⟨w, hw, hat⟩ := Option.bind_eq_some_iff.mp hat
      obtain ⟨fs, hfs, hget⟩ := Option.bind_eq_some_iff.mp hw
      rw [eq_object hfs, leaves]
      exact mem_leavesOf hget (ih hat)

/-! ### Tidy documents -/

/-- The names of every object come in order. -/
inductive Tidy : Value → Prop
  | leaf {v : Value} (h : v.asObject? = none) : Tidy v
  | object {fs : Fields} (hordered : Table.Ordered fs) (hmembers : ∀ e ∈ fs, Tidy e.2) :
      Tidy (.object fs)

/-- The members of a tidy object are in order. -/
theorem Tidy.ordered {fs : Fields} (h : Tidy (.object fs)) : Table.Ordered fs := by
  cases h with
  | leaf h => exact nomatch h
  | object hordered => exact hordered

/-- The members of a tidy object are tidy. -/
theorem Tidy.members {fs : Fields} (h : Tidy (.object fs)) : ∀ e ∈ fs, Tidy e.2 := by
  cases h with
  | leaf h => exact nomatch h
  | object _ hmembers => exact hmembers

/-- A member of a tidy object is tidy. -/
theorem Tidy.get? {fs : Fields} (h : Tidy (.object fs)) {k : String} {v : Value}
    (hget : Table.get? fs k = some v) : Tidy v :=
  h.members _ (Table.mem_of_get? hget)

/-- A tidy object stays so with one more tidy member. -/
theorem Tidy.insert {fs : Fields} (h : Tidy (.object fs)) (k : String) {v : Value} (hv : Tidy v) :
    Tidy (.object (Table.insert fs k v)) := by
  refine .object (h.ordered.insert k v) fun e he => ?_
  rcases Table.mem_insert he with rfl | he
  · exact hv
  · exact h.members e he

theorem tidy_empty : Tidy (.object []) := .object List.Pairwise.nil nofun

/-- Whether a document has nothing but objects where another one has objects. -/
def Fits (v shown : Value) : Prop :=
  ∀ path fs u, at? shown path = some (.object fs) → at? v path = some u → ∃ gs, u = .object gs

/-- Every value fits itself. -/
theorem fits_self (v : Value) : Fits v v := by
  intro path fs u hfs hu
  rw [hfs] at hu
  cases hu
  exact ⟨fs, rfl⟩

/-- The empty object fits every value. -/
theorem fits_empty (shown : Value) : Fits (.object []) shown := by
  intro path fs u _ hu
  cases path with
  | nil => cases hu; exact ⟨_, rfl⟩
  | cons k path => exact nomatch hu

/-! ### Documents over documents -/

/-- A value over what lies below it, if anything does. -/
def laidOver (old : Option Value) (v : Value) : Value :=
  match old with
  | some old => merge old v
  | none => v

/-- Members are laid over an object one after the other. -/
theorem mergeFields_cons (lower : Fields) (k : String) (v : Value) (rest : Fields) :
    mergeFields lower ((k, v) :: rest) =
      mergeFields (Table.insert lower k (laidOver (Table.get? lower k) v)) rest := by
  rw [mergeFields]
  cases Table.get? lower k <;> rfl

/-- Objects are merged by their members. -/
theorem merge_objects (lower upper : Fields) :
    merge (.object lower) (.object upper) = .object (mergeFields lower upper) := by
  simp only [merge]

/-- An object replaces what is no object. -/
theorem merge_object_of_leaf {base : Value} (h : base.asObject? = none) (upper : Fields) :
    merge base (.object upper) = .object upper := by
  cases base with
  | object => exact nomatch h
  | null | bool | number | string | array => simp only [merge]

/-- What is laid over a tidy value is tidy if merging is. -/
theorem Tidy.laidOver {old : Option Value} {v : Value} (hv : Tidy v) (hold : ∀ o ∈ old, Tidy o)
    (hmerge : ∀ base, Tidy base → Tidy (merge base v)) : Tidy (laidOver old v) := by
  cases old with
  | none => exact hv
  | some o => exact hmerge o (hold o rfl)

/-- Tidy documents stay tidy when they are laid over each other. -/
theorem Tidy.merge {base upper : Value} (hupper : Tidy upper) (hbase : Tidy base) :
    Tidy (merge base upper) := by
  induction hupper generalizing base with
  | leaf h => rw [Layer.merge_of_not_object _ _ h]; exact .leaf h
  | @object upper hordered hmembers ih =>
      cases hbase with
      | leaf h => rw [merge_object_of_leaf h]; exact .object hordered hmembers
      | @object lower hlower hlowers =>
          rw [merge_objects]
          -- The lower members change with each member that is laid over them, and stay tidy.
          have hbase : Tidy (.object lower) := .object hlower hlowers
          clear hordered hlower hlowers
          induction upper generalizing lower with
          | nil => rw [Layer.mergeFields_nil]; exact hbase
          | cons e rest ihrest =>
              obtain ⟨hv, hrest⟩ := List.forall_mem_cons.mp hmembers
              obtain ⟨ihv, ihs⟩ := List.forall_mem_cons.mp ih
              rw [mergeFields_cons]
              exact ihrest hrest ihs (hbase.insert _ (hv.laidOver (fun _ ho => hbase.get? ho)
                fun _ h => ihv h))

/-- The members of objects that are laid over each other. -/
theorem get?_mergeFields {upper : Fields} (h : Table.Ordered upper) (lower : Fields) (k : String) :
    Table.get? (mergeFields lower upper) k =
      match Table.get? upper k with
      | some v => some (laidOver (Table.get? lower k) v)
      | none => Table.get? lower k := by
  induction upper generalizing lower with
  | nil => rw [Layer.mergeFields_nil]; rfl
  | cons e rest ih =>
      obtain ⟨name, v⟩ := e
      rw [mergeFields_cons, ih (List.pairwise_cons.mp h).2, Table.get?_insert, Table.get?]
      by_cases hk : name = k
      · subst hk
        simp only [Table.get?_rest h.names_ne, if_true]
      · simp only [if_neg hk]

/-- Nothing changes when an object is laid over one without members. -/
theorem mem_mergeFields_nil {fs : Fields} (h : Tidy (.object fs)) (e : String × Value) :
    e ∈ mergeFields [] fs ↔ e ∈ fs := by
  have hmerged : Tidy (.object (mergeFields [] fs)) := by
    rw [← merge_objects]
    exact h.merge tidy_empty
  have hget : Table.get? (mergeFields [] fs) e.1 = Table.get? fs e.1 := by
    rw [get?_mergeFields h.ordered]
    cases Table.get? fs e.1 <;> rfl
  constructor
  · intro he
    rw [Table.get?_of_mem hmerged.ordered.names_ne he] at hget
    exact Table.mem_of_get? hget.symm
  · intro he
    rw [Table.get?_of_mem h.ordered.names_ne he] at hget
    exact Table.mem_of_get? hget

/-- The value at the end of a way that is open above. -/
theorem at?_merge {upper : Value} {path : List String} (htidy : Tidy upper)
    (hopen : IsOpen upper path) (base : Value) :
    at? (merge base upper) path =
      match at? upper path with
      | some u => some (laidOver (at? base path) u)
      | none => at? base path := by
  induction path generalizing base upper with
  | nil => rfl
  | cons k path ih =>
      obtain ⟨us, rfl, hrest⟩ := hopen
      cases hbase : base.asObject? with
      | none =>
          rw [merge_object_of_leaf hbase, at?_of_not_object hbase]
          cases at? (.object us) (k :: path) <;> rfl
      | some lower =>
          obtain rfl := eq_object hbase
          simp only [merge_objects, at?_object, get?_mergeFields htidy.ordered]
          cases hu : Table.get? us k with
          | none => rfl
          | some u =>
              cases Table.get? lower k with
              | none =>
                  simp only [laidOver, Option.bind_some, Option.bind_none]
                  cases at? u path <;> rfl
              | some old => exact ih (htidy.get? hu) (hrest u hu) old

/-- What is laid over a value that is no object replaces it. -/
theorem merge_of_leaf {base : Value} (h : base.asObject? = none) (v : Value) :
    merge base v = v := by
  cases v with
  | object fs => exact merge_object_of_leaf h fs
  | null | bool | number | string | array => simp only [merge]

/-- An object that is laid over something is an object. -/
theorem laidOver_object (old : Option Value) (fs : Fields) :
    ∃ gs, laidOver old (.object fs) = .object gs := by
  cases old with
  | none => exact ⟨_, rfl⟩
  | some o =>
      cases ho : o.asObject? with
      | none => exact ⟨_, merge_object_of_leaf ho fs⟩
      | some lower => exact ⟨_, by rw [laidOver, eq_object ho, merge_objects]⟩

/-- What is no object after it was laid over something was none before. -/
theorem laidOver_of_leaf {old : Option Value} {v : Value} (h : (laidOver old v).asObject? = none) :
    laidOver old v = v := by
  cases hv : v.asObject? with
  | none =>
      cases old with
      | none => rfl
      | some o => exact Layer.merge_of_not_object o v hv
  | some fs =>
      obtain rfl := eq_object hv
      obtain ⟨gs, hgs⟩ := laidOver_object old fs
      rw [hgs] at h
      exact nomatch h

/-- The value of the uppermost document that has one. The documents come from the top. -/
def topmost (layers : List Value) (path : List String) : Option Value :=
  layers.findSome? (at? · path)

/-- What ends in no object under documents is the value of the uppermost one that has one there. -/
theorem at?_layers {layers : List Value} {path : List String} (base : Value)
    (hlayers : ∀ l ∈ layers, Tidy l ∧ IsOpen l path)
    (hleaf : ∀ w, at? (layers.foldl merge base) path = some w → w.asObject? = none) :
    at? (layers.foldl merge base) path = topmost (layers.reverse ++ [base]) path := by
  induction layers using List.reverseRecOn with
  | nil =>
      simp only [topmost, List.foldl_nil, List.reverse_nil, List.nil_append, List.findSome?_cons,
        List.findSome?_nil]
      cases at? base path <;> rfl
  | append_singleton layers upper ih =>
      obtain ⟨htidy, hopen⟩ := hlayers upper (by simp)
      rw [List.foldl_append, List.foldl_cons, List.foldl_nil] at hleaf ⊢
      rw [at?_merge htidy hopen] at hleaf ⊢
      simp only [topmost, List.reverse_append, List.reverse_singleton, List.cons_append,
        List.nil_append, List.findSome?_cons]
      cases hu : at? upper path with
      | none =>
          simp only [hu] at hleaf ⊢
          exact ih (fun l hl => hlayers l (List.mem_append_left _ hl)) hleaf
      | some u =>
          simp only [hu] at hleaf ⊢
          rw [laidOver_of_leaf (hleaf _ rfl)]

end IncidentRelay.Settings
