import FieldChecks.Registry.Basic

/-!
# Look-up — what is found in tables and registries

The names of a table stand in ascending order, each of them once. So two
tables in which the same is found under every name are the same table
(`ext_get?`), in whatever order their entries came in. For registries
this file says what each step does to what is found.
-/

namespace FieldChecks

namespace Table

variable {α : Type}

/-- Nothing is found under a name below all others. -/
theorem lookup_eq_none_of_lt {name : String} {entries : List (String × α)}
    (h : ∀ other ∈ entries.map Prod.fst, name < other) : entries.lookup name = none := by
  induction entries with
  | nil => rfl
  | cons entry rest ih =>
    obtain ⟨first, a⟩ := entry
    simp only [List.map_cons, List.mem_cons, forall_eq_or_imp] at h
    rw [lookup_cons, if_neg fun heq => String.lt_irrefl _ (heq ▸ h.1), ih h.2]

/-- Ascending entries are determined by what is found in them. -/
theorem eq_of_lookup_eq {entries others : List (String × α)}
    (he : (entries.map Prod.fst).Pairwise (· < ·)) (ho : (others.map Prod.fst).Pairwise (· < ·))
    (h : ∀ name, entries.lookup name = others.lookup name) : entries = others := by
  induction entries generalizing others with
  | nil =>
    cases others with
    | nil => rfl
    | cons other rest =>
      have := h other.1
      rw [lookup_cons, if_pos rfl] at this
      cases this
  | cons entry rest ih =>
    obtain ⟨first, a⟩ := entry
    simp only [List.map_cons, List.pairwise_cons] at he
    cases others with
    | nil =>
      have := h first
      rw [lookup_cons, if_pos rfl] at this
      cases this
    | cons other others =>
      obtain ⟨second, b⟩ := other
      simp only [List.map_cons, List.pairwise_cons] at ho
      -- the lesser of the two first names would be found on one side only
      have hle : ¬ first < second := fun hlt => by
        have := h first
        rw [lookup_cons, if_pos rfl, lookup_cons, if_neg fun heq => String.lt_irrefl _ (heq ▸ hlt),
          lookup_eq_none_of_lt fun name hn => String.lt_trans hlt (ho.1 name hn)] at this
        cases this
      have hge : ¬ second < first := fun hlt => by
        have := h second
        rw [lookup_cons, if_neg fun heq => String.lt_irrefl _ (heq ▸ hlt), lookup_cons, if_pos rfl,
          lookup_eq_none_of_lt fun name hn => String.lt_trans hlt (he.1 name hn)] at this
        cases this
      obtain rfl : first = second := String.le_antisymm (String.not_lt.1 hge) (String.not_lt.1 hle)
      have hab : a = b := by
        have := h first
        rwa [lookup_cons, if_pos rfl, lookup_cons, if_pos rfl, Option.some.injEq] at this
      rw [hab, ih he.2 ho.2 fun name => ?_]
      by_cases hn : name = first
      · rw [hn, lookup_eq_none_of_lt he.1, lookup_eq_none_of_lt ho.1]
      · have := h name
        rwa [lookup_cons, if_neg hn, lookup_cons, if_neg hn] at this

/-- **A table is what is found in it.** -/
theorem ext_get? {table other : Table α} (h : ∀ name, table.get? name = other.get? name) :
    table = other := by
  obtain ⟨entries, he⟩ := table
  obtain ⟨others, ho⟩ := other
  congr
  exact eq_of_lookup_eq he ho h

/-- The names of a table are those under which something is found. -/
theorem mem_names_iff {table : Table α} {name : String} :
    name ∈ table.names ↔ (table.get? name).isSome := by
  unfold names get?
  induction table.entries with
  | nil => simp
  | cons entry rest ih =>
    obtain ⟨first, a⟩ := entry
    rw [List.map_cons, List.mem_cons, ih, lookup_cons]
    by_cases hname : name = first <;> simp [hname]

/-- A table has as many entries as names. -/
theorem size_eq_length_names (table : Table α) : table.size = table.names.length :=
  (List.length_map _).symm

theorem isEmpty_iff {table : Table α} : table.isEmpty ↔ table.names = [] := by
  rw [isEmpty, names, List.isEmpty_iff, List.map_eq_nil_iff]

end Table

/-! ## Registries -/

namespace Registry

variable (registry : Registry)

@[simp] theorem checker?_register (name other : String) (checker : Checker) :
    (registry.register name checker).checker? other =
      if other = name then some checker else registry.checker? other :=
  Table.get?_insert registry.checkers name other checker

@[simp] theorem maker?_registerMaker (name other : String) (maker : Maker) :
    (registry.registerMaker name maker).maker? other =
      if other = name then some maker else registry.maker? other :=
  Table.get?_insert registry.makers name other maker

end Registry

end FieldChecks
