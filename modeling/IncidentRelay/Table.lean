/-!
# Tables

Values under names, kept in the order of the names. The order is that of the characters' numbers,
which is also the order of the UTF-8 bytes.

## Main statements

* `Table.get?_insert`: after an insertion the new name has the new value and every other name the
  value it had.
* `Table.get?_erase`: after an erasure the name has no value and every other name the value it had.
* `Table.erase_insert`: a value that is set and erased again leaves no trace.
-/

namespace IncidentRelay

/-- Values under names. -/
abbrev Table (α : Type) := List (String × α)

namespace Table

variable {α : Type}

/-- The value under a name. -/
def get? (t : Table α) (name : String) : Option α :=
  match t with
  | [] => none
  | (k, v) :: rest => if k = name then some v else get? rest name

/-- Sets the value under a name, at its place in the order of names. -/
def insert (t : Table α) (name : String) (value : α) : Table α :=
  match t with
  | [] => [(name, value)]
  | (k, v) :: rest =>
    if k = name then (name, value) :: rest
    else if name < k then (name, value) :: (k, v) :: rest
    else (k, v) :: insert rest name value

/-- Removes a name with its value. -/
def erase (t : Table α) (name : String) : Table α := t.filter (·.1 ≠ name)

/-- The table of entries that come in any order; of two with one name the later stays. -/
def ofList (entries : List (String × α)) : Table α :=
  entries.foldl (fun t e => insert t e.1 e.2) []

/-- An inserted value is found under its name, and all others as before. -/
theorem get?_insert (t : Table α) (name other : String) (value : α) :
    get? (insert t name value) other = if name = other then some value else get? t other := by
  induction t with
  | nil => rfl
  | cons e rest ih =>
    obtain ⟨k, v⟩ := e
    by_cases hk : k = name
    · subst hk
      by_cases ho : k = other <;> simp [insert, get?, ho]
    · rw [show insert ((k, v) :: rest) name value =
          if name < k then (name, value) :: (k, v) :: rest
          else (k, v) :: insert rest name value from by simp [insert, hk]]
      by_cases hlt : name < k
      · rw [if_pos hlt]
        by_cases ho : name = other <;> simp [get?, ho]
      · rw [if_neg hlt]
        simp only [get?, ih]
        by_cases hko : k = other
        · have : ¬name = other := fun h => hk (by rw [hko, h])
          simp [hko, this]
        · simp [hko]

/-- An erased name leads nowhere, and all others as before. -/
theorem get?_erase (t : Table α) (name other : String) :
    get? (erase t name) other = if name = other then none else get? t other := by
  induction t with
  | nil => simp [erase, get?]
  | cons e rest ih =>
    obtain ⟨k, v⟩ := e
    by_cases hk : k = name
    · rw [show erase ((k, v) :: rest) name = erase rest name from by simp [erase, hk], ih]
      by_cases ho : name = other
      · simp [ho]
      · have : ¬k = other := fun h => ho (by rw [← hk, h])
        simp [get?, ho, this]
    · rw [show erase ((k, v) :: rest) name = (k, v) :: erase rest name from by simp [erase, hk]]
      simp only [get?, ih]
      by_cases hko : k = other
      · have : ¬name = other := fun h => hk (by rw [hko, h])
        simp [hko, this]
      · simp [hko]

/-- Erasing a name makes up for inserting it. -/
theorem erase_insert (t : Table α) (name : String) (value : α) :
    erase (insert t name value) name = erase t name := by
  induction t with
  | nil => simp [insert, erase]
  | cons e rest ih =>
    obtain ⟨k, v⟩ := e
    by_cases hk : k = name
    · simp [insert, erase, hk]
    · by_cases hlt : name < k
      · simp [insert, erase, hk, hlt]
      · have hrest : insert ((k, v) :: rest) name value = (k, v) :: insert rest name value := by
          simp [insert, hk, hlt]
        have hkeep (l : Table α) : erase ((k, v) :: l) name = (k, v) :: erase l name := by
          simp [erase, hk]
        rw [hrest, hkeep, hkeep, ih]

end Table

end IncidentRelay
