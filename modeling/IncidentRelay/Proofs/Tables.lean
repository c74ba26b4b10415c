import IncidentRelay.Table
import Mathlib.Order.Basic

/-!
# Tables in order

A table whose names come in order has each of them at most once. Tables that are built by insertions
are in order, and so the first entry of a name is the only one.

## Main statements

* `Table.Ordered.insert`: an insertion keeps the order.
* `Table.get?_of_mem`: an entry is found under its name if no other entry has it.
* `Table.get?_ofList`: a table has the entries that it was made of.
* `Table.filter_insert`, `Table.filter_erase`: a part of a table is written and erased on its own.
* `Table.get?_union`: where two tables are joined, an entry of the first hides that of the second.
-/

namespace IncidentRelay.Table

variable {α : Type} {t : Table α} {name : String}

/-- The names come in order, and each at most once. -/
def Ordered (t : Table α) : Prop := t.Pairwise (·.1 < ·.1)

/-- What is in a table after an insertion was inserted or was there before. -/
theorem mem_insert {value : α} {e : String × α} (h : e ∈ t.insert name value) :
    e = (name, value) ∨ e ∈ t := by
  induction t with
  | nil => exact .inl (List.mem_singleton.mp h)
  | cons d rest ih =>
      obtain ⟨k, v⟩ := d
      unfold Table.insert at h
      split at h
      · exact (List.mem_cons.mp h).imp_right (List.mem_cons_of_mem _)
      · split at h
        · exact List.mem_cons.mp h
        · rcases List.mem_cons.mp h with rfl | h
          · exact .inr List.mem_cons_self
          · exact (ih h).imp_right (List.mem_cons_of_mem _)

/-- An insertion keeps the names of a table in order. -/
theorem Ordered.insert (h : t.Ordered) (name : String) (value : α) :
    (t.insert name value).Ordered := by
  induction t with
  | nil => exact List.pairwise_singleton _ _
  | cons d rest ih =>
      obtain ⟨k, v⟩ := d
      obtain ⟨hk, hrest⟩ := List.pairwise_cons.mp h
      unfold Table.insert
      split
      · next heq =>
          subst heq
          exact List.pairwise_cons.mpr ⟨hk, hrest⟩
      · next hne =>
          split
          · next hlt =>
              refine List.pairwise_cons.mpr ⟨?_, h⟩
              intro e he
              rcases List.mem_cons.mp he with rfl | he
              · exact hlt
              · exact String.lt_trans hlt (hk e he)
          · next hge =>
              have hlt : k < name := by
                by_contra hge'
                exact hne (String.le_antisymm (String.not_lt.mp hge) (String.not_lt.mp hge'))
              refine List.pairwise_cons.mpr ⟨?_, ih hrest⟩
              intro e he
              rcases mem_insert he with rfl | he
              · exact hlt
              · exact hk e he

/-- A name in front of all others is inserted in front. -/
theorem insert_of_lt (h : ∀ e ∈ t, name < e.1) (value : α) :
    t.insert name value = (name, value) :: t := by
  cases t with
  | nil => rfl
  | cons d rest =>
      have hlt : name < d.1 := h d List.mem_cons_self
      have hne : d.1 ≠ name := by
        rintro rfl
        exact String.lt_irrefl _ hlt
      simp [Table.insert, hne, hlt]

/-- What a name leads to is in the table. -/
theorem mem_of_get? {value : α} (h : get? t name = some value) : (name, value) ∈ t := by
  induction t with
  | nil => exact nomatch h
  | cons e rest ih =>
      obtain ⟨k, v⟩ := e
      unfold get? at h
      split at h
      · next hk =>
          subst hk
          exact Option.some.inj h ▸ List.mem_cons_self
      · exact List.mem_cons_of_mem _ (ih h)

/-- A name that is not in the table leads nowhere. -/
theorem get?_eq_none_of_notMem (h : ∀ value, (name, value) ∉ t) : get? t name = none := by
  cases hget : get? t name with
  | none => rfl
  | some value => exact absurd (mem_of_get? hget) (h value)

/-- An entry is found under its name if no other entry has it. -/
theorem get?_of_mem (h : t.Pairwise (·.1 ≠ ·.1)) {value : α} (hmem : (name, value) ∈ t) :
    get? t name = some value := by
  induction t with
  | nil => exact absurd hmem List.not_mem_nil
  | cons e rest ih =>
      obtain ⟨k, v⟩ := e
      obtain ⟨hk, hrest⟩ := List.pairwise_cons.mp h
      rcases List.mem_cons.mp hmem with heq | hmem
      · cases heq
        simp [get?]
      · have hne : k ≠ name := hk (name, value) hmem
        simp only [get?, if_neg hne]
        exact ih hrest hmem

/-- The names of a table in order are different. -/
theorem Ordered.names_ne (h : t.Ordered) : t.Pairwise (·.1 ≠ ·.1) := by
  refine h.imp fun hlt heq => ?_
  rw [heq] at hlt
  exact String.lt_irrefl _ hlt

/-- After its first entry a name does not come again. -/
theorem get?_rest {k : String} {v : α} {rest : Table α}
    (h : List.Pairwise (·.1 ≠ ·.1) ((k, v) :: rest)) : get? rest k = none :=
  get?_eq_none_of_notMem fun value hmem => (List.pairwise_cons.mp h).1 (k, value) hmem rfl

/-- A table made of entries is in order. -/
theorem ordered_ofList (entries : List (String × α)) : (ofList entries).Ordered := by
  have hfold : ∀ (entries : List (String × α)) (t : Table α), t.Ordered →
      (entries.foldl (fun t e => t.insert e.1 e.2) t).Ordered := by
    intro entries
    induction entries with
    | nil => exact fun _ h => h
    | cons e rest ih => exact fun t h => ih _ (h.insert e.1 e.2)
  exact hfold entries [] List.Pairwise.nil

/-- A table made of entries holds no others. -/
theorem mem_ofList {entries : List (String × α)} {e : String × α} (h : e ∈ ofList entries) :
    e ∈ entries := by
  have hfold : ∀ (entries : List (String × α)) (t : Table α),
      e ∈ entries.foldl (fun t e => t.insert e.1 e.2) t → e ∈ t ∨ e ∈ entries := by
    intro entries
    induction entries with
    | nil => exact fun _ h => .inl h
    | cons d rest ih =>
        intro t h
        rcases ih _ h with h | h
        · rcases mem_insert h with rfl | h
          · exact .inr List.mem_cons_self
          · exact .inl h
        · exact .inr (List.mem_cons_of_mem _ h)
  exact (hfold entries [] h).resolve_left List.not_mem_nil

/-- A table has the entries that it was made of, if these have different names. -/
theorem get?_ofList {entries : List (String × α)} (h : entries.Pairwise (·.1 ≠ ·.1)) :
    get? (ofList entries) name = get? entries name := by
  have hfold : ∀ (entries : List (String × α)), entries.Pairwise (·.1 ≠ ·.1) → ∀ t : Table α,
      get? (entries.foldl (fun t e => t.insert e.1 e.2) t) name =
        (get? entries name).or (get? t name) := by
    intro entries
    induction entries with
    | nil => exact fun _ _ => rfl
    | cons e rest ih =>
        intro h t
        obtain ⟨k, v⟩ := e
        rw [List.foldl_cons, ih (List.pairwise_cons.mp h).2, get?_insert, get?]
        by_cases hk : k = name
        · subst hk
          simp [get?_rest h]
        · simp [hk]
  rw [ofList, hfold entries h [], get?, Option.or_none]

/-- A name that is not there is erased by doing nothing. -/
theorem erase_of_none (h : t.get? name = none) : t.erase name = t := by
  induction t with
  | nil => rfl
  | cons e rest ih =>
      obtain ⟨k, v⟩ := e
      have hk : k ≠ name := by
        rintro rfl
        simp [get?] at h
      have hrest : get? rest name = none := by simpa only [get?, if_neg hk] using h
      have hih : erase rest name = rest := ih hrest
      simp only [erase] at hih ⊢
      rw [List.filter_cons_of_pos (by simpa using hk), hih]

/-! ### Parts of tables -/

/-- A part of a table has its own insertions. -/
theorem filter_insert {p : String → Bool} (h : t.Ordered) (hp : p name = true) (value : α) :
    (t.insert name value).filter (fun e => p e.1) =
      Table.insert (t.filter fun e => p e.1) name value := by
  induction t with
  | nil => simp [Table.insert, hp]
  | cons d rest ih =>
      obtain ⟨k, v⟩ := d
      obtain ⟨hk, hrest⟩ := List.pairwise_cons.mp h
      by_cases hname : k = name
      · subst hname
        simp [Table.insert, hp]
      · by_cases hlt : name < k
        · have hfront : ∀ e ∈ ((k, v) :: rest).filter (fun e => p e.1), name < e.1 := by
            intro e he
            rcases List.mem_cons.mp (List.mem_filter.mp he).1 with rfl | he
            · exact hlt
            · exact String.lt_trans hlt (hk e he)
          rw [insert_of_lt hfront]
          simp [Table.insert, hname, hlt, hp]
        · have hinsert (l : Table α) :
              Table.insert ((k, v) :: l) name value = (k, v) :: Table.insert l name value := by
            simp [Table.insert, hname, hlt]
          rw [hinsert]
          cases hpk : p k with
          | true => simp only [List.filter_cons, hpk, if_true, hinsert, ih hrest]
          | false => simp only [List.filter_cons, hpk, Bool.false_eq_true, if_false, ih hrest]

/-- What is inserted elsewhere does not show in a part. -/
theorem filter_insert_of_not {p : String → Bool} (hp : p name = false) (t : Table α) (value : α) :
    (t.insert name value).filter (fun e => p e.1) = t.filter fun e => p e.1 := by
  induction t with
  | nil => simp [Table.insert, hp]
  | cons d rest ih =>
      obtain ⟨k, v⟩ := d
      unfold Table.insert
      split
      · next hname =>
          subst hname
          simp [hp]
      · split
        · simp [hp]
        · simp only [List.filter_cons, ih]

/-- Taking a part of a table and erasing a name can be done in either order. -/
theorem filter_erase (t : Table α) (p : String → Bool) (name : String) :
    (t.erase name).filter (fun e => p e.1) = Table.erase (t.filter fun e => p e.1) name := by
  simp only [Table.erase, List.filter_filter, Bool.and_comm]

/-- What is erased elsewhere does not show in a part. -/
theorem filter_erase_of_not {p : String → Bool} (hp : p name = false) (t : Table α) :
    (t.erase name).filter (fun e => p e.1) = t.filter fun e => p e.1 := by
  simp only [Table.erase, List.filter_filter]
  refine List.filter_congr ?_
  intro e _
  by_cases he : e.1 = name <;> simp [he, hp]

/-- In the part of a table that it belongs to, a name leads where it led. -/
theorem get?_filter {p : String → Bool} (hp : p name = true) (t : Table α) :
    Table.get? (t.filter fun e => p e.1) name = t.get? name := by
  induction t with
  | nil => rfl
  | cons d rest ih =>
      obtain ⟨k, v⟩ := d
      cases hpk : p k with
      | true => simp only [List.filter_cons, hpk, if_true, Table.get?, ih]
      | false =>
          have hne : k ≠ name := by
            rintro rfl
            exact absurd hp (by simp [hpk])
          simp only [List.filter_cons, hpk, Bool.false_eq_true, if_false, Table.get?, if_neg hne,
            ih]

/-- In a part of a table that it does not belong to, a name leads nowhere. -/
theorem get?_filter_of_not {p : String → Bool} (hp : p name = false) (t : Table α) :
    Table.get? (t.filter fun e => p e.1) name = none := by
  refine get?_eq_none_of_notMem fun value hmem => ?_
  exact absurd (List.mem_filter.mp hmem).2 (by simp [hp])

/-! ### Unions of tables -/

/-- The entries of two tables; what the first has under a name comes before what the second has. -/
def union (t u : Table α) : Table α := t.foldr (fun e u => u.insert e.1 e.2) u

/-- Two tables have no name in common. -/
def Apart (t u : Table α) : Prop := ∀ e ∈ t, u.get? e.1 = none

instance (t u : Table α) [DecidableEq α] : Decidable (t.Apart u) :=
  inferInstanceAs (Decidable (∀ e ∈ t, u.get? e.1 = none))

/-- No name leads anywhere in both of two tables that are apart. -/
theorem Apart.get?_eq_none {u : Table α} (h : t.Apart u) (name : String) :
    t.get? name = none ∨ u.get? name = none := by
  cases hget : t.get? name with
  | none => exact .inl rfl
  | some value => exact .inr (h _ (mem_of_get? hget))

/-- In a union of tables, a name leads where it leads in the first, or else in the second. -/
theorem get?_union (t u : Table α) (name : String) :
    (t.union u).get? name = (t.get? name).or (u.get? name) := by
  induction t with
  | nil => exact Option.none_or.symm
  | cons e rest ih =>
      obtain ⟨k, v⟩ := e
      have hcons : union ((k, v) :: rest) u = (union rest u).insert k v := rfl
      rw [hcons, get?_insert, ih]
      by_cases hk : k = name
      · simp [hk, get?]
      · simp [hk, get?]

end IncidentRelay.Table
