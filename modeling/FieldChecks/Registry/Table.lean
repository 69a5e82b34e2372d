/-!
# Tables by name

A table holds entries under names, at most one under each. Its names
stand in ascending order, so that two tables with the same entries are
equal, and listing the names of a table sorts them.
-/

namespace FieldChecks

namespace Table

/-- Entries in ascending order of their names with one more, which replaces an entry of the
same name. -/
def insertInto {α : Type} (name : String) (a : α) : List (String × α) → List (String × α)
  | [] => [(name, a)]
  | (other, b) :: rest =>
    if name < other then (name, a) :: (other, b) :: rest
    else if other < name then (other, b) :: insertInto name a rest
    else (name, a) :: rest

theorem fst_mem_insertInto {α : Type} {name other : String} {a : α} {entries : List (String × α)}
    (h : other ∈ (insertInto name a entries).map Prod.fst) :
    other = name ∨ other ∈ entries.map Prod.fst := by
  induction entries with
  | nil => simpa [insertInto] using h
  | cons entry rest ih =>
    obtain ⟨first, b⟩ := entry
    simp only [insertInto] at h
    split at h
    · simpa using h
    · split at h
      · simp only [List.map_cons, List.mem_cons] at h ⊢
        rcases h with h | h
        · exact .inr (.inl h)
        · exact (ih h).imp_right .inr
      · simp only [List.map_cons, List.mem_cons] at h ⊢
        exact h.imp_right .inr

/-- Inserting keeps the names in ascending order. -/
theorem ascending_insertInto {α : Type} {name : String} {a : α} {entries : List (String × α)}
    (h : (entries.map Prod.fst).Pairwise (· < ·)) :
    ((insertInto name a entries).map Prod.fst).Pairwise (· < ·) := by
  induction entries with
  | nil => simp [insertInto]
  | cons entry rest ih =>
    obtain ⟨first, b⟩ := entry
    simp only [List.map_cons, List.pairwise_cons] at h
    simp only [insertInto]
    split
    · rename_i hlt
      simp only [List.map_cons, List.pairwise_cons]
      refine ⟨fun other hm => ?_, h⟩
      rcases List.mem_cons.1 hm with rfl | hm
      · exact hlt
      · exact String.lt_trans hlt (h.1 _ hm)
    · split
      · rename_i hlt
        simp only [List.map_cons, List.pairwise_cons]
        refine ⟨fun other hm => ?_, ih h.2⟩
        rcases fst_mem_insertInto hm with rfl | hm
        · exact hlt
        · exact h.1 _ hm
      · rename_i hge hle
        have heq : name = first := String.le_antisymm (String.not_lt.1 hle) (String.not_lt.1 hge)
        simpa [heq] using h

end Table

/-- Entries under names in ascending order. -/
structure Table (α : Type) where
  entries : List (String × α)
  ascending : (entries.map Prod.fst).Pairwise (· < ·)

namespace Table

variable {α : Type}

/-- The table without entries. -/
def empty : Table α := ⟨[], .nil⟩

/-- The entry under a name. -/
def get? (table : Table α) (name : String) : Option α :=
  table.entries.lookup name

/-- Whether there is an entry under a name. -/
def contains (table : Table α) (name : String) : Bool :=
  (table.get? name).isSome

/-- The table with an entry under a name, in place of any other entry there. -/
def insert (table : Table α) (name : String) (a : α) : Table α :=
  ⟨insertInto name a table.entries, ascending_insertInto table.ascending⟩

/-- The names of the entries, in ascending order. -/
def names (table : Table α) : List String :=
  table.entries.map Prod.fst

/-- How many entries a table has. -/
def size (table : Table α) : Nat :=
  table.entries.length

/-- Whether a table has no entries. -/
def isEmpty (table : Table α) : Bool :=
  table.entries.isEmpty

theorem lookup_cons (name other : String) (a : α) (entries : List (String × α)) :
    List.lookup other ((name, a) :: entries) =
      if other = name then some a else entries.lookup other := by
  rw [List.lookup_cons]
  by_cases h : other = name
  · simp [h]
  · have hb : (other == name) = false := by simpa using h
    simp [hb, h]

theorem lookup_insertInto (name other : String) (a : α) (entries : List (String × α)) :
    (insertInto name a entries).lookup other =
      if other = name then some a else entries.lookup other := by
  induction entries with
  | nil => simp [insertInto, lookup_cons]
  | cons entry rest ih =>
    obtain ⟨first, b⟩ := entry
    simp only [insertInto]
    split
    · rw [lookup_cons]
    · split
      · rename_i hlt
        by_cases h : other = first
        · have hne : other ≠ name := by rintro rfl; exact String.lt_irrefl _ (h ▸ hlt)
          simp [h, h ▸ hne]
        · simp [lookup_cons, h, ih]
      · rename_i hge hle
        have heq : name = first := String.le_antisymm (String.not_lt.1 hle) (String.not_lt.1 hge)
        subst heq
        by_cases h : other = name <;> simp [lookup_cons, h]

/-- An inserted entry is found under its name; every other name keeps its entry. -/
theorem get?_insert (table : Table α) (name other : String) (a : α) :
    (table.insert name a).get? other = if other = name then some a else table.get? other :=
  lookup_insertInto name other a table.entries

end Table

end FieldChecks
