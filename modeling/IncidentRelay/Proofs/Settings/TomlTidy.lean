import IncidentRelay.Proofs.Settings.Document
import IncidentRelay.Toml.Reader

/-!
# Documents that are read from TOML

Tables of a TOML document only ever grow by keys that are set at their place in order. So the object
that a well-formed text stands for is tidy.

## Main statements

* `Toml.tidy_of_read`: a document that was read is tidy.
-/

namespace IncidentRelay.Toml

open Json (Value)
open Settings (Tidy)

/-! ### Tidy tables -/

/-- What stands under a key stands for a tidy value. The tables of headers in double brackets stand
for an array, of which nothing is asked. -/
inductive TidyNode : Node → Prop
  | value {v : Value} (h : Tidy v) : TidyNode (.value v)
  | table {origin : Origin} {entries : Tree} (hordered : Table.Ordered entries)
      (hentries : ∀ e ∈ entries, TidyNode e.2) : TidyNode (.table origin entries)
  | tables {items : List (List (String × Node))} : TidyNode (.tables items)

/-- A table whose keys come in order, with tidy values. -/
structure TidyTree (t : Tree) : Prop where
  ordered : Table.Ordered t
  entries : ∀ e ∈ t, TidyNode e.2

theorem TidyTree.empty : TidyTree [] := ⟨List.Pairwise.nil, nofun⟩

/-- A tidy tree stays so with one more tidy node. -/
theorem TidyTree.insert {t : Tree} (h : TidyTree t) (key : String) {n : Node} (hn : TidyNode n) :
    TidyTree (Table.insert t key n) := by
  refine ⟨h.ordered.insert key n, fun e he => ?_⟩
  rcases Table.mem_insert he with rfl | he
  · exact hn
  · exact h.entries e he

theorem TidyTree.table {t : Tree} (h : TidyTree t) (origin : Origin) :
    TidyNode (.table origin t) := .table h.ordered h.entries

/-- A tree inside a tidy tree is tidy. -/
theorem TidyTree.below {t sub : Tree} (h : TidyTree t) {key : String} {origin : Origin}
    (hget : Table.get? t key = some (.table origin sub)) : TidyTree sub := by
  cases h.entries _ (Table.mem_of_get? hget) with
  | table hordered hentries => exact ⟨hordered, hentries⟩

/-- The members of a table are the values of its nodes. -/
theorem entryValues_eq_map (entries : List (String × Node)) :
    Node.entryValues entries = entries.map fun e => (e.1, e.2.toValue) := by
  induction entries with
  | nil => rw [Node.entryValues]; rfl
  | cons e rest ih => rw [Node.entryValues, ih]; rfl

/-- A tidy node has a tidy value. -/
theorem TidyNode.toValue {n : Node} (h : TidyNode n) : Tidy n.toValue := by
  induction h with
  | value h => rwa [Node.toValue]
  | table hordered hentries ih =>
      rw [Node.toValue, entryValues_eq_map]
      refine .object (List.pairwise_map.mpr hordered) fun e he => ?_
      obtain ⟨d, hd, rfl⟩ := List.mem_map.mp he
      exact ih d hd
  | tables => rw [Node.toValue]; exact .leaf rfl

/-! ### Growing tables -/

/-- Assigning a tidy value keeps a tree tidy. -/
theorem tidy_assign {path : List String} {key : String} {v : Value} (hv : Tidy v) {open_ : Bool}
    {t t' : Tree} (ht : TidyTree t) (h : Tree.assign path key v open_ t = some t') :
    TidyTree t' := by
  induction path generalizing open_ t t' with
  | nil =>
      unfold Tree.assign at h
      split at h
      · cases h
        exact ht.insert key (.value hv)
      · cases h
  | cons k path ih =>
      unfold Tree.assign at h
      split at h
      · obtain ⟨sub, hsub, rfl⟩ := Option.map_eq_some_iff.mp h
        exact ht.insert k ((ih .empty hsub).table _)
      · next origin sub hget =>
          split at h
          · cases h
          · obtain ⟨sub', hsub, rfl⟩ := Option.map_eq_some_iff.mp h
            exact ht.insert k ((ih (ht.below hget) hsub).table _)
      · split at h
        · cases h
        · obtain ⟨last, -, rfl⟩ := Option.map_eq_some_iff.mp h
          exact ht.insert k .tables
      · cases h

/-- What keeps trees tidy can be done further down as well. -/
theorem tidy_reach {f : String → Tree → Option Tree}
    (hf : ∀ {k t t'}, TidyTree t → f k t = some t' → TidyTree t') {path : List String}
    {t t' : Tree} (ht : TidyTree t) (h : Tree.reach f path t = some t') : TidyTree t' := by
  induction path generalizing t t' with
  | nil => exact nomatch h
  | cons k path ih =>
      cases path with
      | nil => exact hf ht h
      | cons next path =>
          unfold Tree.reach at h
          split at h
          · obtain ⟨sub, hsub, rfl⟩ := Option.map_eq_some_iff.mp h
            exact ht.insert k ((ih .empty hsub).table _)
          · next origin sub hget =>
              obtain ⟨sub', hsub, rfl⟩ := Option.map_eq_some_iff.mp h
              exact ht.insert k ((ih (ht.below hget) hsub).table _)
          · split at h
            · exact nomatch h
            · obtain ⟨last, -, rfl⟩ := Option.map_eq_some_iff.mp h
              exact ht.insert k .tables
          · exact nomatch h

/-- Defining a table keeps a tree tidy. -/
theorem tidy_define {path : List String} {t t' : Tree} (ht : TidyTree t)
    (h : Tree.define path t = some t') : TidyTree t' := by
  refine tidy_reach (fun {k t t'} ht h => ?_) ht h
  split at h
  · cases h
    exact ht.insert k (TidyTree.empty.table _)
  · next sub hget =>
      cases h
      exact ht.insert k ((ht.below hget).table _)
  · exact nomatch h

/-- Adding to an array of tables keeps a tree tidy. -/
theorem tidy_append {path : List String} {t t' : Tree} (ht : TidyTree t)
    (h : Tree.append path t = some t') : TidyTree t' := by
  refine tidy_reach (fun {k t t'} ht h => ?_) ht h
  split at h
  · cases h
    exact ht.insert k .tables
  · cases h
    exact ht.insert k .tables
  · exact nomatch h

/-- Assigning under a header keeps a tree tidy. -/
theorem tidy_assignUnder {header path : List String} {key : String} {v : Value} (hv : Tidy v)
    {t t' : Tree} (ht : TidyTree t) (h : Tree.assignUnder header path key v t = some t') :
    TidyTree t' := by
  unfold Tree.assignUnder at h
  split at h
  · exact tidy_assign hv ht h
  · refine tidy_reach (fun {k t t'} ht h => ?_) ht h
    split at h
    · next origin sub hget =>
        obtain ⟨sub', hsub, rfl⟩ := Option.map_eq_some_iff.mp h
        exact ht.insert k ((tidy_assign hv (ht.below hget) hsub).table _)
    · split at h
      · exact nomatch h
      · obtain ⟨last, -, rfl⟩ := Option.map_eq_some_iff.mp h
        exact ht.insert k .tables
    · exact nomatch h

/-! ### Values -/

/-- Infinity and the undefined number are no objects. -/
theorem leaf_of_word? {i : Int} {v : Value} (h : word? i = some v) : v.asObject? = none := by
  unfold word? at h
  split at h
  · cases h
    rfl
  · exact nomatch h

/-- A number to a base is no object. -/
theorem leaf_of_based? {base : Nat} {cs : List Char} {v : Value} (h : based? base cs = some v) :
    v.asObject? = none := by
  obtain ⟨ds, -, h⟩ := Option.bind_eq_some_iff.mp h
  exact leaf_of_word? h

/-- A floating-point number is no object. -/
theorem leaf_of_float? {digits rest : List Char} {v : Value}
    (h : decimal?.float? digits rest = some v) : v.asObject? = none := by
  obtain ⟨e, -, h⟩ := Option.bind_eq_some_iff.mp h
  split at h
  · cases h
    rfl
  · exact nomatch h

/-- A decimal number is no object. -/
theorem leaf_of_decimal? {negative : Bool} {cs : List Char} {v : Value}
    (h : decimal? negative cs = some v) : v.asObject? = none := by
  obtain ⟨ds, -, h⟩ := Option.bind_eq_some_iff.mp h
  split at h
  · exact leaf_of_word? h
  · obtain ⟨fs, -, h⟩ := Option.bind_eq_some_iff.mp h
    exact leaf_of_float? h
  · exact leaf_of_float? h

/-- No number is an object. -/
theorem leaf_of_number? {run : List Char} {v : Value} (h : number? run = some v) :
    v.asObject? = none := by
  unfold number? at h
  split at h
  · exact leaf_of_based? h
  · exact leaf_of_based? h
  · exact leaf_of_based? h
  · dsimp only at h
    split at h <;> split at h
    all_goals first
      | (cases h; rfl)
      | exact leaf_of_decimal? h

/-- A value without quotes and brackets is tidy. -/
theorem tidy_scalarValue? {cs rest : List Char} {v : Value}
    (h : scalarValue? cs = some (v, rest)) : Tidy v := by
  unfold scalarValue? at h
  split at h
  · cases h
    exact .object (List.pairwise_singleton _ _) fun e he => by
      rw [List.mem_singleton.mp he]
      exact .leaf rfl
  · dsimp only at h
    split at h
    · cases h
      exact .leaf rfl
    · split at h
      · cases h
        exact .leaf rfl
      · obtain ⟨u, hu, heq⟩ := Option.map_eq_some_iff.mp h
        cases heq
        exact .leaf (leaf_of_number? hu)

/-- Values are tidy, and so are the entries of inline tables that are added to a tidy table. -/
theorem tidy_value?_entries? (fuel : Nat) :
    (∀ depth cs v rest, value? fuel depth cs = some (v, rest) → Tidy v) ∧
      ∀ depth t cs t' rest, TidyTree t → entries? fuel depth t cs = some (t', rest) →
        TidyTree t' := by
  induction fuel with
  | zero =>
      refine ⟨?_, ?_⟩
      · intro depth cs v rest h
        rw [value?] at h
        exact nomatch h
      · intro depth t cs t' rest _ h
        rw [entries?] at h
        exact nomatch h
  | succ fuel ih =>
      obtain ⟨ihvalue, ihentries⟩ := ih
      refine ⟨?_, ?_⟩
      · intro depth cs v rest h
        unfold value? at h
        split at h
        · obtain ⟨⟨s, r⟩, -, heq⟩ := Option.map_eq_some_iff.mp h
          cases heq
          exact .leaf rfl
        · obtain ⟨⟨s, r⟩, -, heq⟩ := Option.map_eq_some_iff.mp h
          cases heq
          exact .leaf rfl
        · split at h
          · exact nomatch h
          · obtain ⟨⟨vs, r⟩, -, heq⟩ := Option.map_eq_some_iff.mp h
            cases heq
            exact .leaf rfl
        · split at h
          · exact nomatch h
          · split at h
            · cases h
              exact Settings.tidy_empty
            · obtain ⟨⟨t, r⟩, ht, heq⟩ := Option.map_eq_some_iff.mp h
              cases heq
              exact ((ihentries _ _ _ _ _ .empty ht).table _).toValue
        · exact tidy_scalarValue? h
      · intro depth t cs t' rest ht h
        unfold entries? at h
        obtain ⟨⟨ks, afterKey⟩, -, h⟩ := Option.bind_eq_some_iff.mp h
        split at h
        · obtain ⟨⟨v, afterValue⟩, hv, h⟩ := Option.bind_eq_some_iff.mp h
          obtain ⟨grown, hgrown, h⟩ := Option.bind_eq_some_iff.mp h
          have htidy := tidy_assign (ihvalue _ _ _ _ hv) ht hgrown
          split at h
          · exact ihentries _ _ _ _ _ htidy h
          · cases h
            exact htidy
          · exact nomatch h
        · exact nomatch h

/-! ### Documents -/

/-- A line keeps the document tidy. -/
theorem tidy_line? {fuel : Nat} {header header' : List String} {t t' : Tree} {cs rest : List Char}
    (ht : TidyTree t) (h : line? fuel header t cs = some (header', t', rest)) : TidyTree t' := by
  unfold line? at h
  split at h
  · obtain ⟨⟨ks, afterKey⟩, -, h⟩ := Option.bind_eq_some_iff.mp h
    split at h
    · obtain ⟨rest, -, h⟩ := Option.bind_eq_some_iff.mp h
      obtain ⟨grown, hgrown, heq⟩ := Option.map_eq_some_iff.mp h
      cases heq
      exact tidy_append ht hgrown
    · exact nomatch h
  · obtain ⟨⟨ks, afterKey⟩, -, h⟩ := Option.bind_eq_some_iff.mp h
    split at h
    · obtain ⟨rest, -, h⟩ := Option.bind_eq_some_iff.mp h
      obtain ⟨grown, hgrown, heq⟩ := Option.map_eq_some_iff.mp h
      cases heq
      exact tidy_define ht hgrown
    · exact nomatch h
  · obtain ⟨⟨ks, afterKey⟩, -, h⟩ := Option.bind_eq_some_iff.mp h
    split at h
    · obtain ⟨⟨v, afterValue⟩, hv, h⟩ := Option.bind_eq_some_iff.mp h
      obtain ⟨rest, -, h⟩ := Option.bind_eq_some_iff.mp h
      obtain ⟨grown, hgrown, heq⟩ := Option.map_eq_some_iff.mp h
      cases heq
      exact tidy_assignUnder ((tidy_value?_entries? _).1 _ _ _ _ hv) ht hgrown
    · exact nomatch h

/-- Lines keep the document tidy. -/
theorem tidy_linesFrom? {fuel : Nat} {header : List String} {t t' : Tree} {cs : List Char}
    (ht : TidyTree t) (h : linesFrom? fuel header t cs = some t') : TidyTree t' := by
  induction fuel generalizing header t cs with
  | zero => rw [linesFrom?] at h; exact nomatch h
  | succ fuel ih =>
      unfold linesFrom? at h
      obtain ⟨rest, -, h⟩ := Option.bind_eq_some_iff.mp h
      split at h
      · cases h
        exact ht
      · obtain ⟨⟨header, grown, rest⟩, hgrown, h⟩ := Option.bind_eq_some_iff.mp h
        exact ih (tidy_line? ht hgrown) h

/-- A document that was read is tidy. -/
theorem tidy_of_read {text : String} {v : Value} (h : read text = some v) : Tidy v := by
  obtain ⟨t, ht, rfl⟩ := Option.map_eq_some_iff.mp h
  exact ((tidy_linesFrom? .empty ht).table _).toValue

end IncidentRelay.Toml
