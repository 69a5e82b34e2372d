import FieldChecks.Proofs.Value.Zero
import FieldChecks.Value.Description
import Mathlib.Data.List.Forall2

/-!
# Values — values that are alike behind their layers

Two values are alike when nothing but layers tells them apart, at any
depth: both do not resolve, or they resolve to the same scalar or
container, or to records of one name with fields that are alike in turn.
Values that are alike are equally zero (`Alike.isZero_eq`) and equally
records (`Alike.leadsToRecord_eq`).
-/

namespace FieldChecks

/-- The fields have one name, visibility and list of tags. -/
def Field.SameLabel (field other : Field Value) : Prop :=
  field.name = other.name ∧ field.isPublic = other.isPublic ∧ field.tags = other.tags

/-- The fields have one label, and values that are related. -/
def Field.Corresponds (R : Value → Value → Prop) (field other : Field Value) : Prop :=
  field.SameLabel other ∧ R field.value other.value

namespace Value

/-- **Two values that are alike**: layers aside, they are the same. -/
inductive Alike : Value → Value → Prop
  | unresolved {value other : Value} (h : value.resolve = none) (hother : other.resolve = none) :
      Alike value other
  | plain {value other resolved : Value} (h : value.resolve = some resolved)
      (hother : other.resolve = some resolved) (hkind : resolved.kind ≠ .record) :
      Alike value other
  | record {value other : Value} {name : String} {fields others : List (Field Value)}
      (h : value.resolve = some (.record name fields))
      (hother : other.resolve = some (.record name others))
      (hlabels : List.Forall₂ Field.SameLabel fields others)
      (hvalues : ∀ field other, (field, other) ∈ fields.zip others →
        Alike field.value other.value) :
      Alike value other

/-- Labels and values together say how fields correspond. -/
theorem forall₂_corresponds {R : Value → Value → Prop} {fields others : List (Field Value)}
    (hlabels : List.Forall₂ Field.SameLabel fields others)
    (hvalues : ∀ field other, (field, other) ∈ fields.zip others → R field.value other.value) :
    List.Forall₂ (Field.Corresponds R) fields others := by
  obtain ⟨hlength, hzip⟩ := List.forall₂_iff_zip.1 hlabels
  exact List.forall₂_iff_zip.2 ⟨hlength, fun h => ⟨hzip h, hvalues _ _ h⟩⟩

theorem all_eq_of_forall₂ {α : Type} {p : α → Bool} {as bs : List α}
    (h : List.Forall₂ (fun a b => p a = p b) as bs) : as.all p = bs.all p := by
  induction h with
  | nil => rfl
  | cons hab _ ih => rw [List.all_cons, List.all_cons, hab, ih]

namespace Alike

variable {value other : Value}

/-- Records are alike when their fields are, one by one. -/
theorem of_fields {name : String} {fields others : List (Field Value)}
    (h : value.resolve = some (.record name fields))
    (hother : other.resolve = some (.record name others))
    (hfields : List.Forall₂ (Field.Corresponds Alike) fields others) : Alike value other :=
  .record h hother (hfields.imp fun _ _ => And.left) fun _ _ hmem =>
    (List.forall₂_zip hfields hmem).2

/-- A value is like itself. -/
theorem refl (value : Value) : Alike value value := by
  induction value using resolve_induction with
  | step value ih =>
    cases h : value.resolve with
    | none => exact .unresolved h h
    | some resolved =>
      cases resolved with
      | record name fields =>
        refine .of_fields h h (List.forall₂_same.2 fun field hfield => ?_)
        exact ⟨⟨rfl, rfl, rfl⟩, ih _ h field hfield⟩
      | _ => exact .plain h h (by simp [kind])

/-- **Layers do not tell values apart**, as long as both can be followed. -/
theorem of_resolve_eq (h : value.resolve = other.resolve) : Alike value other := by
  cases refl value with
  | unresolved hvalue _ => exact .unresolved hvalue (h ▸ hvalue)
  | plain hvalue _ hkind => exact .plain hvalue (h ▸ hvalue) hkind
  | record hvalue hvalue' hlabels hvalues => exact .record hvalue (h ▸ hvalue') hlabels hvalues

/-- **Values that are alike are equally zero.** -/
theorem isZero_eq (h : Alike value other) : value.isZero = other.isZero := by
  induction h with
  | unresolved h hother => rw [isZero_of_unresolved h, isZero_of_unresolved hother]
  | plain h hother _ => rw [isZero_of_resolve h, isZero_of_resolve hother]
  | record h hother hlabels _ ih =>
    rw [isZero_of_resolve h, isZero_of_resolve hother, isZero_record, isZero_record]
    have hfields : List.Forall₂ (Field.Corresponds fun value other => value.isZero = other.isZero)
      _ _ := forall₂_corresponds hlabels ih
    exact all_eq_of_forall₂ (hfields.imp fun _ _ hfield => hfield.2)

/-- Values that are alike lead to records or do not. -/
theorem leadsToRecord_eq (h : Alike value other) : value.leadsToRecord = other.leadsToRecord := by
  unfold leadsToRecord
  cases h with
  | unresolved h hother => rw [h, hother]
  | plain h hother _ => rw [h, hother]
  | record h hother _ _ => rw [h, hother]

end Alike

end Value

end FieldChecks
