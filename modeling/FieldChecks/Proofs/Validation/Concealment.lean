import FieldChecks.Proofs.Checks.Standard
import FieldChecks.Proofs.Validation.Correspondence

/-!
# Validation — what is not read does not matter

A validation has no business with tags of other names than the configured
one, nor with the values of fields that are not public, beyond their being
zero or not. `Variation.unread` lets just these vary. Values that vary in
this way are laid out as stations that standard checkers cannot tell apart
(`stations_indistinct_of_unread`), since a walk never enters a field that
is not public, and all that an enclosing record shows of such a field is
whether it is zero.
-/

namespace FieldChecks

/-- **What a validation does not read**: tags of other names, and the values of fields that are not
public, which may be any others that are equally zero. -/
def Variation.unread (tagName : String) : Variation where
  label field other := field.name = other.name ∧ field.isPublic = other.isPublic ∧
    field.tag? tagName = other.tag? tagName
  aside field other := field.isPublic = false ∧ field.value.isZero = other.value.isZero
  label_refl _ := ⟨rfl, rfl, rfl⟩
  isZero_eq h := h.2

variable {config : Config} {value other : Value}

/-- **Values that vary in what is not read** have stations that standard checkers do not tell
apart. -/
theorem stations_indistinct_of_unread (h : value.Variant (.unread config.tagName) other)
    (scope : List String) (list : String) :
    List.Forall₂ (Station.Indistinct Standard) (stations config scope list value)
      (stations config scope list other) := by
  induction value, other, h using Value.Variant.resolve_induction generalizing scope list with
  | unresolved value other _ hvalue hother =>
    rw [stations_of_unresolved hvalue, stations_of_unresolved hother]
    exact .cons ⟨rfl, .unresolved⟩ .nil
  | resolved value other _ resolved found hvalue hother hvariant hfields =>
    have hkind : resolved.kind ≠ .reference := (Value.resolveWithin_spec hvalue).1
    have hvisit : resolved.Indistinct Standard found :=
      ⟨hvariant.isZero_eq, fun checker hchecker => hchecker.eq_of_variant hvariant hkind⟩
    rw [stations_of_resolved hvalue, stations_of_resolved hother]
    refine .cons ⟨rfl, .value hvisit⟩ (List.rel_flatMap hfields fun field other hfield => ?_)
    obtain ⟨⟨hname, hpublic, htag⟩, hvaries⟩ := hfield
    have hlist : field.checkList config = other.checkList config := by
      rw [Field.checkList, Field.checkList, htag]
    -- a field that is entered is public, and so its value was not put aside
    have hentered : other.isPublic → ¬ (Variation.unread config.tagName).aside field other := by
      intro hother haside
      have hhidden : field.isPublic = false := haside.1
      rw [hpublic, hother] at hhidden
      cases hhidden
    refine fieldStations_forall₂ (fun _ => ⟨rfl, .hidden⟩) hname hpublic hlist ?_ ?_
    · intro hother
      obtain ⟨hvariant, -⟩ := hvaries (hentered hother)
      exact hvariant.leadsToRecord_eq
    · intro hother
      obtain ⟨-, hstations⟩ := hvaries (hentered hother)
      exact hstations

/-- **A validation does not depend on what it must not read.** With standard checkers, values that
differ in tags of other names and in values that are not public, but equally zero, have one result
and leave one registry. -/
theorem checkValue_eq_of_unread (validator : Validator)
    (hregistry : validator.registry.Admits Standard)
    (h : value.Variant (.unread validator.config.tagName) other) :
    (∀ list, validator.checkValue value list = validator.checkValue other list) ∧
      ∀ lists, validator.validate value lists = validator.validate other lists := by
  have hcheck : ∀ list, validator.checkValue value list = validator.checkValue other list := by
    intro list
    have hstations := stations_indistinct_of_unread h [] list
    rw [Validator.checkValue, Validator.checkValue, walkWithin_eq_visitAll, walkWithin_eq_visitAll,
      visitAll_eq_of_indistinct hregistry hstations]
  exact ⟨hcheck, fun lists => hcheck _⟩

/-- With the built-in checks, two accounts whose keys are not public: one is a layer around itself,
the other a record with a tag that names no check. -/
theorem checkValue_eq_of_unread_of_accounts :
    let account : Value := .record "Account"
      [⟨"name", .string "ada", true, [("json", "n"), ("validate", "required,min:2")]⟩,
        ⟨"key", .loop, false, []⟩]
    let other : Value := .record "Account"
      [⟨"name", .string "ada", true, [("validate", "required,min:2")]⟩,
        ⟨"key", .record "Key" [⟨"bits", .uint 8, true, [("validate", "none")]⟩], false, []⟩]
    Registry.builtIn.Admits Standard ∧ account.Variant (.unread "validate") other ∧
      Validator.checkValue ⟨{}, .builtIn⟩ account "required" =
        Validator.checkValue ⟨{}, .builtIn⟩ other "required" := by
  intro account other
  have hname : Field.Varies (.unread "validate")
      ⟨"name", .string "ada", true, [("json", "n"), ("validate", "required,min:2")]⟩
      ⟨"name", .string "ada", true, [("validate", "required,min:2")]⟩ :=
    ⟨⟨rfl, rfl, rfl⟩, fun _ => .same _⟩
  have hkey : Field.Varies (.unread "validate") ⟨"key", .loop, false, []⟩
      ⟨"key", .record "Key" [⟨"bits", .uint 8, true, [("validate", "none")]⟩], false, []⟩ :=
    ⟨⟨rfl, rfl, rfl⟩, fun hnot => absurd ⟨rfl, rfl⟩ hnot⟩
  have hvariant : account.Variant (.unread "validate") other :=
    .of_fields (.cons hname (.cons hkey .nil))
  exact ⟨Registry.builtIn_admits, hvariant,
    (checkValue_eq_of_unread ⟨{}, .builtIn⟩ Registry.builtIn_admits hvariant).1 "required"⟩

end FieldChecks
