import FieldChecks.Value.Basic

/-!
# Values — what lies behind the layers

Everything that looks at a value looks at what it resolves to. What a
value resolves to is behind all layers (`resolveWithin_resolved`), and
the fields found there are smaller than the value, so that an argument
may follow layers and enter records at once (`resolve_induction`).
-/

namespace FieldChecks

namespace Value

variable {value resolved : Value} {layers : Nat}

/-- The fields of a record. Other values have none. -/
def fields : Value → List (Field Value)
  | .record _ fields => fields
  | _ => []

theorem fields_eq_nil (h : value.kind ≠ .record) : value.fields = [] := by
  cases value with
  | record name fields => exact absurd rfl h
  | _ => rfl

/-- A value that is no layer resolves to itself. -/
theorem resolveWithin_of_kind_ne (h : value.kind ≠ .reference) (layers : Nat) :
    value.resolveWithin layers = some value := by
  cases value with
  | reference inner => exact absurd rfl h
  | loop => exact absurd rfl h
  | _ => cases layers <;> rfl

/-- **Induction over the layers of a value that resolves**: none, an empty one, or one around a
value that resolves to the same. -/
theorem resolved_induction
    {motive : ∀ layers (value : Value), value.resolveWithin layers = some resolved → Prop}
    (plain : ∀ layers (hkind : resolved.kind ≠ .reference),
      motive layers resolved (resolveWithin_of_kind_ne hkind layers))
    (empty : ∀ layers (h : resolveWithin (layers + 1) (.reference none) = some resolved),
      motive (layers + 1) (.reference none) h)
    (layer : ∀ layers (inner : Value) (h : inner.resolveWithin layers = some resolved),
      motive layers inner h → motive (layers + 1) (.reference (some inner)) h)
    (layers : Nat) (value : Value) (h : value.resolveWithin layers = some resolved) :
    motive layers value h := by
  induction layers generalizing value with
  | zero =>
    cases value with
    | reference inner => cases h
    | loop => cases h
    | _ => cases h; exact plain 0 (by simp [kind])
  | succ layers ih =>
    cases value with
    | reference inner =>
      cases inner with
      | none => exact empty layers h
      | some inner => exact layer layers inner h (ih inner h)
    | loop => cases h
    | _ => cases h; exact plain (layers + 1) (by simp [kind])

/-- **Induction over the layers of a value that does not resolve**: it is a layer around itself,
one layer more than are followed, or a layer around a value that does not resolve either. -/
theorem unresolved_induction
    {motive : ∀ layers (value : Value), value.resolveWithin layers = none → Prop}
    (loop : ∀ layers h, motive layers .loop h)
    (limit : ∀ inner h, motive 0 (.reference inner) h)
    (layer : ∀ layers (inner : Value) (h : inner.resolveWithin layers = none),
      motive layers inner h → motive (layers + 1) (.reference (some inner)) h)
    (layers : Nat) (value : Value) (h : value.resolveWithin layers = none) :
    motive layers value h := by
  induction layers generalizing value with
  | zero =>
    cases value with
    | reference inner => exact limit inner h
    | loop => exact loop 0 h
    | _ => cases h
  | succ layers ih =>
    cases value with
    | reference inner =>
      cases inner with
      | none => cases h
      | some inner => exact layer layers inner h (ih inner h)
    | loop => exact loop (layers + 1) h
    | _ => cases h

/-- What is behind the layers is smaller than the value, and no layer. -/
theorem resolveWithin_spec (h : value.resolveWithin layers = some resolved) :
    resolved.kind ≠ .reference ∧ sizeOf resolved ≤ sizeOf value := by
  induction layers, value, h using resolved_induction with
  | plain layers hkind => exact ⟨hkind, Nat.le_refl _⟩
  | empty layers h =>
    cases h
    simp [kind]
  | layer layers inner _ ih =>
    obtain ⟨hkind, hle⟩ := ih
    refine ⟨hkind, ?_⟩
    simp only [Value.reference.sizeOf_spec, Option.some.sizeOf_spec]
    omega

/-- **What a value resolves to is behind all layers**: it resolves to itself. -/
theorem resolveWithin_resolved (h : value.resolveWithin layers = some resolved) (other : Nat) :
    resolved.resolveWithin other = some resolved :=
  resolveWithin_of_kind_ne (resolveWithin_spec h).1 other

theorem sizeOf_value_lt (field : Field Value) : sizeOf field.value < sizeOf field := by
  obtain ⟨name, value, isPublic, tags⟩ := field
  simp only [Field.mk.sizeOf_spec]
  omega

/-- The fields behind a value's layers are smaller than the value. -/
theorem sizeOf_field_lt {field : Field Value} (h : value.resolve = some resolved)
    (hfield : field ∈ resolved.fields) : sizeOf field < sizeOf value := by
  refine Nat.lt_of_lt_of_le ?_ (resolveWithin_spec h).2
  cases resolved with
  | record name fields =>
    have hlt : sizeOf field < sizeOf fields := List.sizeOf_lt_of_mem hfield
    simp only [Value.record.sizeOf_spec]
    omega
  | _ => cases hfield

/-- **Induction behind the layers**: what holds of a value when it holds of the values in the
fields that it leads to holds of every value. -/
theorem resolve_induction {motive : Value → Prop}
    (step : ∀ value, (∀ resolved, value.resolve = some resolved →
      ∀ field ∈ resolved.fields, motive field.value) → motive value)
    (value : Value) : motive value := by
  induction hn : sizeOf value using Nat.strongRecOn generalizing value with
  | ind n ih =>
    refine step value fun resolved h field hfield => ?_
    have hlt : sizeOf field.value < n :=
      hn ▸ Nat.lt_trans (sizeOf_value_lt field) (sizeOf_field_lt h hfield)
    exact ih _ hlt field.value rfl

end Value

end FieldChecks
