import IncidentRelay.Proofs.Settings.Document
import IncidentRelay.Settings.Environment

/-!
# The layer of the environment

Each variable that names a setting is a document with one value at the end of its path, and the
environment is these documents laid over each other. A variable whose path crosses no other one's
has its value in the layer, and where no variable leads there is nothing.

## Main statements

* `Environment.tidy_document`: the layer of an environment is tidy.
* `Environment.at?_document`: a variable whose path crosses no other one's sets its setting.
-/

namespace IncidentRelay.Settings.Environment

open Json (Fields Value)

/-! ### Values -/

/-- A scalar is no object. -/
theorem leaf_of_scalar (cs : List Char) : (scalar cs).asObject? = none := by
  unfold scalar
  dsimp only
  split
  · rfl
  · split
    · rfl
    · split <;> rfl

/-- Values are tidy, and so are the values of entries. -/
theorem tidy_value?_entries? (fuel : Nat) :
    (∀ cs v rest, value? fuel cs = some (v, rest) → Tidy v) ∧
      ∀ cs es rest, entries? fuel cs = some (es, rest) → ∀ e ∈ es, Tidy e.2 := by
  induction fuel with
  | zero =>
      refine ⟨?_, ?_⟩
      · intro cs v rest h
        rw [value?] at h
        exact nomatch h
      · intro cs es rest h
        rw [entries?] at h
        exact nomatch h
  | succ fuel ih =>
      obtain ⟨ihvalue, ihentries⟩ := ih
      refine ⟨?_, ?_⟩
      · intro cs v rest h
        unfold value? at h
        obtain ⟨⟨u, r⟩, hu, heq⟩ := Option.map_eq_some_iff.mp h
        cases heq
        split at hu
        · cases hu
          exact .leaf rfl
        · cases hu
          exact .leaf rfl
        · obtain ⟨⟨es, r⟩, hes, heq⟩ := Option.map_eq_some_iff.mp hu
          cases heq
          exact .object (Table.ordered_ofList es) fun e he =>
            ihentries _ _ _ hes e (Table.mem_ofList he)
        · obtain ⟨⟨vs, r⟩, -, heq⟩ := Option.map_eq_some_iff.mp hu
          cases heq
          exact .leaf rfl
        · obtain ⟨⟨s, r⟩, -, heq⟩ := Option.map_eq_some_iff.mp hu
          cases heq
          exact .leaf rfl
        · cases hu
          exact .leaf rfl
        · exact nomatch hu
        · cases hu
          exact .leaf (leaf_of_scalar _)
      · intro cs es rest h
        unfold entries? at h
        split at h
        · cases h
          nofun
        · obtain ⟨⟨k, afterName⟩, -, h⟩ := Option.bind_eq_some_iff.mp h
          dsimp only at h
          split at h
          · obtain ⟨⟨v, afterValue⟩, hv, h⟩ := Option.bind_eq_some_iff.mp h
            have htidy := ihvalue _ _ _ hv
            split at h
            · next hread =>
                cases hread
                obtain ⟨⟨others, r⟩, hothers, heq⟩ := Option.map_eq_some_iff.mp h
                cases heq
                exact List.forall_mem_cons.mpr ⟨htidy, ihentries _ _ _ hothers⟩
            · next hread =>
                cases hread
                cases h
                exact List.forall_mem_cons.mpr ⟨htidy, nofun⟩
            · exact nomatch h
          · exact nomatch h

/-- The value of a variable is tidy. -/
theorem tidy_value (text : String) : Tidy (value text) := by
  unfold value
  split
  · next v h => exact (tidy_value?_entries? _).1 _ _ _ h
  · exact .leaf rfl

/-! ### The document of one variable -/

theorem nest_cons (k : String) (path : List String) (v : Value) :
    nest (k :: path) v = .object [(k, nest path v)] := rfl

/-- A tidy value stays so under a path. -/
theorem tidy_nest (path : List String) {v : Value} (h : Tidy v) : Tidy (nest path v) := by
  induction path with
  | nil => exact h
  | cons k path ih =>
      refine .object (List.pairwise_singleton _ _) fun e he => ?_
      rw [List.mem_singleton.mp he]
      exact ih

theorem get?_single (k name : String) (v : Value) :
    Table.get? [(k, v)] name = if k = name then some v else none := rfl

/-- A path leads to what was put under it. -/
theorem at?_nest (path : List String) (v : Value) : at? (nest path v) path = some v := by
  induction path with
  | nil => rfl
  | cons k path ih => rw [nest_cons, at?_object, get?_single, if_pos rfl]; exact ih

/-- Whether two paths part before either of them ends. -/
def Apart (path other : List String) : Prop := ¬ path <+: other ∧ ¬ other <+: path

/-- Nothing lies where the path of a variable does not lead. -/
theorem at?_nest_of_apart {path other : List String} (h : Apart path other) (v : Value) :
    at? (nest path v) other = none := by
  induction path generalizing other with
  | nil => exact absurd List.nil_prefix h.1
  | cons k path ih =>
      cases other with
      | nil => exact absurd List.nil_prefix h.2
      | cons name other =>
          rw [nest_cons, at?_object, get?_single]
          by_cases hk : k = name
          · subst hk
            rw [if_pos rfl]
            exact ih ⟨fun hp => h.1 (List.cons_prefix_cons.mpr ⟨rfl, hp⟩),
              fun hp => h.2 (List.cons_prefix_cons.mpr ⟨rfl, hp⟩)⟩
          · rw [if_neg hk]
            rfl

/-- A way that does not go beyond the value of a variable is open. -/
theorem isOpen_nest {path other : List String} (h : path <+: other → path = other) (v : Value) :
    IsOpen (nest path v) other := by
  induction path generalizing other with
  | nil => rw [← h List.nil_prefix]; trivial
  | cons k path ih =>
      cases other with
      | nil => trivial
      | cons name other =>
          refine ⟨_, nest_cons k path v, fun u hu => ?_⟩
          rw [get?_single] at hu
          split at hu
          · next hk =>
              cases hu
              subst hk
              exact ih fun hp => (List.cons.inj (h (List.cons_prefix_cons.mpr ⟨rfl, hp⟩))).2
          · exact nomatch hu

/-- Before the end of the path of a variable there are objects. -/
theorem prefix_or_object {path other : List String} {v u : Value}
    (h : at? (nest path v) other = some u) : path <+: other ∨ ∃ fs, u = .object fs := by
  induction path generalizing other with
  | nil => exact .inl List.nil_prefix
  | cons k path ih =>
      cases other with
      | nil =>
          cases h
          exact .inr ⟨_, nest_cons k path v⟩
      | cons name other =>
          rw [nest_cons, at?_object, get?_single] at h
          split at h
          · next hk =>
              exact (ih h).imp_left fun hp => List.cons_prefix_cons.mpr ⟨hk, hp⟩
          · exact nomatch h

/-! ### The documents of all variables -/

/-- Lays the document of a variable over a document. -/
def lay (doc : Value) (e : String × String) : Value :=
  match path? e.1 with
  | some path => Layer.merge doc (nest path (value e.2))
  | none => doc

theorem document_eq (environment : Table String) :
    document environment = environment.foldl lay (.object []) := rfl

/-- A variable laid over a tidy document leaves it tidy. -/
theorem tidy_lay {doc : Value} (h : Tidy doc) (e : String × String) : Tidy (lay doc e) := by
  unfold lay
  split
  · exact (tidy_nest _ (tidy_value e.2)).merge h
  · exact h

/-- The layer of an environment is tidy. -/
theorem tidy_document (environment : Table String) : Tidy (document environment) := by
  have hfold : ∀ (entries : List (String × String)) (doc : Value), Tidy doc →
      Tidy (entries.foldl lay doc) := by
    intro entries
    induction entries with
    | nil => exact fun _ h => h
    | cons e rest ih => exact fun doc h => ih _ (tidy_lay h e)
  exact hfold environment _ tidy_empty

/-- Variables whose paths are apart from a way change nothing at its end. -/
theorem at?_foldl_lay {entries : List (String × String)} {path : List String}
    (h : ∀ e ∈ entries, ∀ other, path? e.1 = some other → Apart other path) (doc : Value) :
    at? (entries.foldl lay doc) path = at? doc path := by
  induction entries generalizing doc with
  | nil => rfl
  | cons e rest ih =>
      obtain ⟨hfirst, hrest⟩ := List.forall_mem_cons.mp h
      rw [List.foldl_cons, ih hrest, lay]
      split
      · next other hother =>
          have hapart := hfirst other hother
          rw [at?_merge (tidy_nest _ (tidy_value e.2))
            (isOpen_nest (fun hp => absurd hp hapart.1) _), at?_nest_of_apart hapart]
      · rfl

/-- Nothing lies where no variable leads. -/
theorem at?_document_of_apart {environment : Table String} {path : List String}
    (hpath : path ≠ []) (h : ∀ e ∈ environment, ∀ other, path? e.1 = some other →
      Apart other path) : at? (document environment) path = none := by
  rw [document_eq, at?_foldl_lay h]
  cases path with
  | nil => exact absurd rfl hpath
  | cons k path => rfl

/-- A variable whose path crosses no other one's sets its setting. -/
theorem at?_document {before after : Table String} {name text : String} {path : List String}
    (hpath : path? name = some path) (hne : path ≠ [])
    (hbefore : ∀ e ∈ before, ∀ other, path? e.1 = some other → Apart other path)
    (hafter : ∀ e ∈ after, ∀ other, path? e.1 = some other → Apart other path) :
    at? (document (before ++ (name, text) :: after)) path = some (value text) := by
  have hnone := at?_document_of_apart hne hbefore
  rw [document_eq] at hnone
  rw [document_eq, List.foldl_append, List.foldl_cons, at?_foldl_lay hafter]
  simp only [lay, hpath]
  rw [at?_merge (tidy_nest _ (tidy_value text)) (isOpen_nest (fun _ => rfl) _), at?_nest, hnone]
  rfl

end IncidentRelay.Settings.Environment
