import FieldChecks.Validator
import FieldChecks.Proofs.CheckList.Keeping
import FieldChecks.Proofs.Value.Resolution

/-!
# Validation — the stations of a walk

A walk enters records inside records and carries a registry along. This
file takes the two apart. `stations` lays a value out, in the order in
which a walk comes to its places, and knows no registry; `visitAll` goes
along such a line with a registry and stops at the first error. The walk
is the one after the other (`walkWithin_eq_visitAll`), so whatever holds
of lines of stations holds of walks.
-/

namespace FieldChecks

/-! ## Laying a value out -/

/-- What a validation comes upon. -/
inductive Encounter where
  /-- A value that does not resolve. -/
  | unresolved
  /-- What a value resolves to, and the list of checks for it. -/
  | value (list : String) (resolved : Value)
  /-- A field that is not public and carries checks. -/
  | hidden

/-- What a validation comes upon at a place, which is given by the names of the fields that lead
there. -/
structure Station where
  scope : List String
  encounter : Encounter

/-- The check list in the tag of a field; without a tag it is empty. -/
def Field.checkList (config : Config) (field : Field Value) : String :=
  (field.tag? config.tagName).getD ""

mutual

/-- **The stations of a value**, in the order of a walk: what the value resolves to, then the
fields of the record that it leads to. -/
def stations (config : Config) (scope : List String) (list : String) (value : Value) :
    List Station :=
  match _h : value.resolve with
  | none => [⟨scope, .unresolved⟩]
  | some resolved => ⟨scope, .value list resolved⟩ ::
    resolved.fields.attach.flatMap fun ⟨field, _⟩ => fieldStations config scope field
termination_by sizeOf value
decreasing_by exact Value.sizeOf_field_lt ‹_› ‹_›

/-- The stations of a field. A field that is not public is one if it carries checks and that is an
error, and is never entered; a public one is laid out, unless it has neither checks nor a record. -/
def fieldStations (config : Config) (scope : List String) (field : Field Value) : List Station :=
  if !field.isPublic then
    if config.errorOnPrivate && !Text.isBlank (field.checkList config) then
      [⟨scope ++ [field.name], .hidden⟩]
    else []
  else if Text.isBlank (field.checkList config) && !field.value.leadsToRecord then []
  else stations config (scope ++ [field.name]) (field.checkList config) field.value
termination_by sizeOf field
decreasing_by exact Value.sizeOf_value_lt field

end

variable {config : Config} {scope : List String} {list : String} {value resolved : Value}

theorem stations_of_unresolved (h : value.resolve = none) :
    stations config scope list value = [⟨scope, .unresolved⟩] := by
  rw [stations]
  split
  · rfl
  · rename_i hsome
    rw [h] at hsome
    cases hsome

theorem stations_of_resolved (h : value.resolve = some resolved) :
    stations config scope list value =
      ⟨scope, .value list resolved⟩ :: resolved.fields.flatMap (fieldStations config scope) := by
  rw [stations]
  split
  · rename_i hnone
    rw [h] at hnone
    cases hnone
  · rename_i other hsome
    obtain rfl : resolved = other := Option.some.inj (h.symm.trans hsome)
    rw [List.flatMap_subtype fun field hfield => rfl, List.unattach_attach]

/-! ## One thing after the other -/

/-- An error as seen from a place that encloses it. -/
def ValidationError.under (scope : List String) (error : ValidationError) : ValidationError :=
  { error with scope := scope ++ error.scope }

/-- The result of a validation, and the registry that it leaves. -/
abbrev Outcome := Except ValidationError Unit × Registry

namespace Outcome

/-- What comes next, unless there was an error. -/
def andThen (outcome : Outcome) (next : Registry → Outcome) : Outcome :=
  match outcome with
  | (.error error, registry) => (.error error, registry)
  | (.ok (), registry) => next registry

/-- An outcome as seen from a place that encloses it. -/
def under (scope : List String) (outcome : Outcome) : Outcome :=
  (outcome.1.mapError (·.under scope), outcome.2)

variable (outcome : Outcome) (next after : Registry → Outcome)

theorem andThen_ok : outcome.andThen (fun registry => (.ok (), registry)) = outcome := by
  rcases outcome with ⟨_ | ⟨⟨⟩⟩, _⟩ <;> rfl

theorem andThen_assoc :
    (outcome.andThen next).andThen after = outcome.andThen fun r => (next r).andThen after := by
  rcases outcome with ⟨_ | ⟨⟨⟩⟩, _⟩ <;> rfl

theorem under_andThen (scope : List String) :
    (outcome.andThen next).under scope =
      (outcome.under scope).andThen fun r => (next r).under scope := by
  rcases outcome with ⟨_ | ⟨⟨⟩⟩, _⟩ <;> rfl

end Outcome

/-! ## Going along the stations -/

/-- The visit of a station. -/
def Station.visit (config : Config) (station : Station) (registry : Registry) : Outcome :=
  match station.encounter with
  | .unresolved => (.error ⟨station.scope, .derefLimit Value.layerLimit⟩, registry)
  | .value list resolved =>
    Outcome.under station.scope (checkResolved config list resolved registry)
  | .hidden => (.error ⟨station.scope, .privateField⟩, registry)

/-- The visits of some stations, up to the first error. -/
def visitAll (config : Config) : List Station → Registry → Outcome
  | [], registry => (.ok (), registry)
  | station :: stations, registry =>
    (station.visit config registry).andThen (visitAll config stations)

theorem visitAll_append (before after : List Station) (registry : Registry) :
    visitAll config (before ++ after) registry =
      (visitAll config before registry).andThen (visitAll config after) := by
  induction before generalizing registry with
  | nil => rfl
  | cons station before ih =>
    simp only [List.cons_append, visitAll, Outcome.andThen_assoc]
    exact congrArg _ (funext ih)

theorem visitAll_singleton (station : Station) (registry : Registry) :
    visitAll config [station] registry = station.visit config registry :=
  Outcome.andThen_ok _

/-! ## The walk is such a visit -/

variable {layers : Nat}

theorem walkWithin_of_unresolved (h : value.resolveWithin layers = none) (registry : Registry) :
    walkWithin config layers list value registry = (.error unresolved, registry) := by
  induction layers, value, h using Value.unresolved_induction with
  | loop layers _ => rw [walkWithin]
  | limit inner _ => cases inner <;> rw [walkWithin]
  | layer layers inner _ ih => rw [walkWithin, ih]

/-- A walk of a value that is no layer: its own checks, then its fields. -/
theorem walkWithin_of_kind_ne (h : value.kind ≠ .reference) (registry : Registry) :
    walkWithin config layers list value registry =
      Outcome.andThen (checkResolved config list value registry)
        (walkFields config value.fields) := by
  by_cases hkind : value.kind = .record
  · cases value with
    | record name fields =>
      rw [walkWithin]
      rfl
    | _ => cases hkind
  · -- without fields nothing comes next
    rw [Value.fields_eq_nil hkind]
    refine Eq.trans ?_ (Outcome.andThen_ok _).symm
    cases value with
    | record name fields => exact absurd rfl hkind
    | reference inner => exact absurd rfl h
    | loop => exact absurd rfl h
    | _ => rw [walkWithin] <;> simp

/-- **A walk looks at what the value resolves to**, and at the fields found there. -/
theorem walkWithin_of_resolved (h : value.resolveWithin layers = some resolved)
    (registry : Registry) :
    walkWithin config layers list value registry =
      Outcome.andThen (checkResolved config list resolved registry)
        (walkFields config resolved.fields) := by
  induction layers, value, h using Value.resolved_induction with
  | plain layers hkind => exact walkWithin_of_kind_ne hkind registry
  | empty layers h =>
    cases h
    rw [walkWithin]
    exact (Outcome.andThen_ok _).symm
  | layer layers inner _ ih => rw [walkWithin, ih]

theorem walkFields_cons (field : Field Value) (fields : List (Field Value)) (registry : Registry) :
    walkFields config (field :: fields) registry =
      Outcome.andThen (walkField config field registry) (walkFields config fields) := by
  rw [walkFields]
  rfl

/-- A walk of a field that is entered is a walk of its value, one name further down. -/
theorem under_within (name : String) (outcome : Outcome) :
    Outcome.under scope (outcome.1.mapError (·.within name), outcome.2) =
      outcome.under (scope ++ [name]) := by
  rcases outcome with ⟨_ | ⟨⟨⟩⟩, _⟩
  · simp [Outcome.under, Except.mapError, ValidationError.under, ValidationError.within]
  · rfl

/-- **A field is walked by visiting its stations**, if that holds of its value. -/
theorem visitAll_fieldStations {field : Field Value}
    (ih : ∀ scope list registry, visitAll config (stations config scope list field.value) registry =
      Outcome.under scope (walkWithin config Value.layerLimit list field.value registry))
    (registry : Registry) :
    visitAll config (fieldStations config scope field) registry =
      Outcome.under scope (walkField config field registry) := by
  obtain ⟨name, value, isPublic, tags⟩ := field
  rw [fieldStations, walkField]
  change visitAll config (if !isPublic then _ else _) registry =
    Outcome.under scope (if !isPublic then _ else _)
  have hlist : Field.checkList config ⟨name, value, isPublic, tags⟩ =
      (tags.lookup config.tagName).getD "" := rfl
  rw [hlist]
  generalize (tags.lookup config.tagName).getD "" = list
  cases isPublic with
  | false =>
    -- a field that is not public is an error or nothing, and its value is not looked at
    simp only [Bool.not_false, if_true]
    split
    · rw [visitAll_singleton]
      rfl
    · rfl
  | true =>
    simp only [Bool.not_true, Bool.false_eq_true, if_false]
    split
    · rfl
    · rw [ih (scope ++ [name]) list registry, ← under_within]
      rcases walkWithin config Value.layerLimit list value registry with ⟨_ | ⟨⟨⟩⟩, _⟩ <;> rfl

theorem visitAll_flatMap_fieldStations {fields : List (Field Value)}
    (ih : ∀ field ∈ fields, ∀ scope list registry,
      visitAll config (stations config scope list field.value) registry =
        Outcome.under scope (walkWithin config Value.layerLimit list field.value registry))
    (registry : Registry) :
    visitAll config (fields.flatMap (fieldStations config scope)) registry =
      Outcome.under scope (walkFields config fields registry) := by
  induction fields generalizing registry with
  | nil => rw [walkFields]; rfl
  | cons field fields ihfields =>
    rw [List.flatMap_cons, visitAll_append, walkFields_cons, Outcome.under_andThen,
      visitAll_fieldStations (ih field List.mem_cons_self)]
    exact congrArg _ (funext (ihfields fun other h => ih other (List.mem_cons_of_mem _ h)))

/-- **A walk visits the stations of the value.** -/
theorem visitAll_stations (config : Config) (scope : List String) (list : String) (value : Value)
    (registry : Registry) :
    visitAll config (stations config scope list value) registry =
      Outcome.under scope (walkWithin config Value.layerLimit list value registry) := by
  induction value using Value.resolve_induction generalizing scope list registry with
  | step value ih =>
    cases h : value.resolve with
    | none =>
      rw [stations_of_unresolved h, walkWithin_of_unresolved h, visitAll_singleton]
      simp [Station.visit, Outcome.under, unresolved, ValidationError.atRoot,
        ValidationError.under, Except.mapError]
    | some resolved =>
      rw [stations_of_resolved h, walkWithin_of_resolved h, Outcome.under_andThen]
      exact congrArg _ (funext (visitAll_flatMap_fieldStations fun field hfield =>
        fun scope list registry => ih resolved h field hfield scope list registry))

/-- As the walk of a validator starts at the root, its errors need no scope in front. -/
theorem walkWithin_eq_visitAll (config : Config) (list : String) (value : Value)
    (registry : Registry) :
    walkWithin config Value.layerLimit list value registry =
      visitAll config (stations config [] list value) registry := by
  rw [visitAll_stations]
  rcases walkWithin config Value.layerLimit list value registry with ⟨_ | ⟨⟨⟩⟩, _⟩ <;> rfl

end FieldChecks
