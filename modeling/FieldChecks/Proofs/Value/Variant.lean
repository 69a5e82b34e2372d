import FieldChecks.Proofs.Value.Alike

/-!
# Values — values that vary in their fields

Two values may have one shape and differ in what stands in the fields of
their records: in the labels, or in some of the values. A `Variation` says
what may differ, and `Value.Variant` takes it through all layers and
records. As long as the values that are put aside are equally zero, a
variant resolves as the value does (`Variant.resolve`), is as zero
(`Variant.isZero_eq`), and its fields vary in turn (`Variant.fields`).
-/

namespace FieldChecks

/-- **A way in which values may vary.** The fields of two records correspond by their labels, and
some of them may have any values that are equally zero. -/
structure Variation where
  /-- How the label of a field may vary: its name, visibility and tags. -/
  label : Field Value → Field Value → Prop
  /-- Which fields may have any values. -/
  aside : Field Value → Field Value → Prop
  label_refl : ∀ field, label field field
  isZero_eq : ∀ {field other}, aside field other → field.value.isZero = other.value.isZero

variable {variation : Variation}

namespace Value

/-- **A variant of a value**: it has the same layers, and the same scalars and containers; its
records have the same names, with fields that vary as they may. -/
inductive Variant (variation : Variation) : Value → Value → Prop
  | same (value : Value) : Variant variation value value
  | layer {inner other : Value} (h : Variant variation inner other) :
      Variant variation (.reference (some inner)) (.reference (some other))
  | record {name : String} {fields others : List (Field Value)}
      (hlabels : List.Forall₂ variation.label fields others)
      (hvalues : ∀ field other, (field, other) ∈ fields.zip others →
        ¬ variation.aside field other → Variant variation field.value other.value) :
      Variant variation (.record name fields) (.record name others)

end Value

/-- The fields vary as they may. -/
def Field.Varies (variation : Variation) (field other : Field Value) : Prop :=
  variation.label field other ∧
    (¬ variation.aside field other → field.value.Variant variation other.value)

namespace Value.Variant

variable {value other : Value}

/-- Records vary when their fields do, one by one. -/
theorem of_fields {name : String} {fields others : List (Field Value)}
    (h : List.Forall₂ (Field.Varies variation) fields others) :
    Variant variation (.record name fields) (.record name others) :=
  .record (h.imp fun _ _ => And.left) fun _ _ hmem => (List.forall₂_zip h hmem).2

/-- **The fields of a variant vary.** -/
theorem fields (h : Variant variation value other) :
    List.Forall₂ (Field.Varies variation) value.fields other.fields := by
  cases h with
  | same value =>
    exact List.forall₂_same.2 fun field _ => ⟨variation.label_refl field, fun _ => .same _⟩
  | layer h => exact .nil
  | record hlabels hvalues =>
    obtain ⟨hlength, hzip⟩ := List.forall₂_iff_zip.1 hlabels
    exact List.forall₂_iff_zip.2 ⟨hlength, fun hmem => ⟨hzip hmem, hvalues _ _ hmem⟩⟩

/-- A variant resolves behind as many layers as the value, to a variant of what is there. -/
theorem resolveWithin (h : Variant variation value other) (layers : Nat) :
    (value.resolveWithin layers = none ∧ other.resolveWithin layers = none) ∨
      ∃ resolved found, value.resolveWithin layers = some resolved ∧
        other.resolveWithin layers = some found ∧ Variant variation resolved found := by
  induction h generalizing layers with
  | same value =>
    cases hvalue : value.resolveWithin layers with
    | none => exact .inl ⟨rfl, rfl⟩
    | some resolved => exact .inr ⟨resolved, resolved, rfl, rfl, .same resolved⟩
  | layer h ih =>
    cases layers with
    | zero => exact .inl ⟨rfl, rfl⟩
    | succ layers => exact ih layers
  | record hlabels hvalues ih =>
    have hself : ∀ name fields, (Value.record name fields).resolveWithin layers =
        some (.record name fields) := by
      intro name fields
      exact resolveWithin_of_kind_ne (by simp [kind]) layers
    exact .inr ⟨_, _, hself _ _, hself _ _, .record hlabels hvalues⟩

/-- **A variant resolves as the value does**, to a variant of what the value resolves to. -/
theorem resolve (h : Variant variation value other) :
    (value.resolve = none ∧ other.resolve = none) ∨
      ∃ resolved found, value.resolve = some resolved ∧ other.resolve = some found ∧
        Variant variation resolved found :=
  h.resolveWithin layerLimit

/-- A variant leads to a record if and only if the value does. -/
theorem leadsToRecord_eq (h : Variant variation value other) :
    value.leadsToRecord = other.leadsToRecord := by
  unfold leadsToRecord
  rcases h.resolve with ⟨hvalue, hother⟩ | ⟨resolved, found, hvalue, hother, hvariant⟩
  · rw [hvalue, hother]
  · rw [hvalue, hother]
    cases hvariant with
    | same resolved => rfl
    | layer h => rfl
    | record hlabels hvalues => rfl

theorem isZeroWithin_eq (h : Variant variation value other) (layers : Nat) :
    value.isZeroWithin layers = other.isZeroWithin layers := by
  induction h generalizing layers with
  | same value => rfl
  | layer h ih =>
    cases layers with
    | zero => rw [isZeroWithin, isZeroWithin]
    | succ layers => rw [isZeroWithin, isZeroWithin, ih]
  | @record name fields others hlabels hvalues ih =>
    rw [isZeroWithin, isZeroWithin, areZero_eq_all, areZero_eq_all]
    -- a value that is put aside is equally zero, and any other one varies
    have hzero : ∀ field other, (field, other) ∈ fields.zip others →
        field.value.isZero = other.value.isZero := by
      intro field other hmem
      by_cases haside : variation.aside field other
      · exact variation.isZero_eq haside
      · exact ih field other hmem haside layerLimit
    exact all_eq_of_forall₂ (List.forall₂_iff_zip.2 ⟨hlabels.length_eq, hzero _ _⟩)

/-- **A variant is as zero as the value.** -/
theorem isZero_eq (h : Variant variation value other) : value.isZero = other.isZero :=
  h.isZeroWithin_eq layerLimit

/-- **Induction behind the layers**: what holds of a value and a variant that do not resolve, and of
those that resolve to values in whose fields it holds again, holds of every value and every variant
of it. -/
theorem resolve_induction {motive : ∀ value other, Variant variation value other → Prop}
    (unresolved : ∀ value other h, value.resolve = none → other.resolve = none →
      motive value other h)
    (resolved : ∀ value other h resolved found, value.resolve = some resolved →
      other.resolve = some found → Variant variation resolved found →
      List.Forall₂ (fun field other => variation.label field other ∧
        (¬ variation.aside field other → ∃ h, motive field.value other.value h))
        resolved.fields found.fields →
      motive value other h)
    (value other : Value) (h : Variant variation value other) : motive value other h := by
  induction value using Value.resolve_induction generalizing other with
  | step value ih =>
    rcases h.resolve with ⟨hvalue, hother⟩ | ⟨inner, found, hvalue, hother, hvariant⟩
    · exact unresolved value other h hvalue hother
    · refine resolved value other h inner found hvalue hother hvariant ?_
      obtain ⟨hlength, hzip⟩ := List.forall₂_iff_zip.1 hvariant.fields
      refine List.forall₂_iff_zip.2 ⟨hlength, fun {field} {other} hmem => ?_⟩
      obtain ⟨hlabel, hvaries⟩ := hzip hmem
      have hfield : field ∈ inner.fields := (List.of_mem_zip hmem).1
      exact ⟨hlabel, fun hnot => ⟨hvaries hnot, ih inner hvalue field hfield _ (hvaries hnot)⟩⟩

/-- What varies in one way varies in every way that allows for more. -/
theorem mono {wider : Variation}
    (hlabel : ∀ field other, variation.label field other → wider.label field other)
    (haside : ∀ field other, variation.aside field other → wider.aside field other)
    (h : Variant variation value other) : Variant wider value other := by
  induction h with
  | same value => exact .same value
  | layer h ih => exact .layer ih
  | record hlabels hvalues ih =>
    refine .record (hlabels.imp hlabel) fun field other hmem hnot => ?_
    exact ih field other hmem fun h => hnot (haside field other h)

end Value.Variant

end FieldChecks
