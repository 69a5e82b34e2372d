import FieldChecks.Proofs.Checks.Standard
import FieldChecks.Proofs.Validation.Violations

/-!
# Validation — what is strict enough stays so when rules are relaxed

Rules are relaxed in four ways: fewer checks look at zero values, fields
that are not public may carry checks, the list of checks for the value
asks for less, and so do the tags in it. A value that is valid stays
valid. The two validations go different ways, since a tag that has
become blank may leave a place out and keeps nothing in the registry; but
each station of the second is a relaxed station of the first
(`stations_relaxed`), and where nothing is wrong nothing becomes wrong
(`Encounter.Relaxed.failures_eq_nil`).

A checker is handed a record with its tags, and might judge by them, so
it is asked to accept what it has accepted when the tags inside are
relaxed (`Tolerant`); the checkers of the library do not look at them
(`IgnoresTags`). Lists that are joined are relaxed as the text that they
make together. Without the one or the other a value may stop being valid
(`not_checkValue_ok_of_relaxed`).
-/

namespace FieldChecks

/-! ## Ways to relax rules -/

/-- A list is relaxed to one without any other segments, and stays blank if it is. The segments
that remain may be in any order; in particular they may be a part of the old ones in theirs. -/
structure CheckList.Relaxed (separator list relaxed : String) : Prop where
  segments_subset : segments separator relaxed ⊆ segments separator list
  isBlank : Text.isBlank list → Text.isBlank relaxed

/-- The configuration exempts no more checks, and is no stricter about fields that are not
public. -/
structure Config.Relaxed (config relaxed : Config) : Prop where
  tagName_eq : relaxed.tagName = config.tagName
  checkSeparator_eq : relaxed.checkSeparator = config.checkSeparator
  argumentSeparator_eq : relaxed.argumentSeparator = config.argumentSeparator
  exempt_subset : relaxed.exempt ⊆ config.exempt
  errorOnPrivate : relaxed.errorOnPrivate → config.errorOnPrivate

/-- The check lists in the tags of fields are relaxed, at any depth. -/
def Variation.relaxed (config : Config) : Variation where
  label field other := field.name = other.name ∧ field.isPublic = other.isPublic ∧
    CheckList.Relaxed config.checkSeparator (field.checkList config) (other.checkList config)
  aside _ _ := False
  label_refl _ := ⟨rfl, rfl, List.Subset.refl _, id⟩
  isZero_eq := False.elim

/-- The tags of fields are others, at any depth. -/
def Variation.retagged : Variation where
  label field other := field.name = other.name ∧ field.isPublic = other.isPublic
  aside _ _ := False
  label_refl _ := ⟨rfl, rfl⟩
  isZero_eq := False.elim

/-- The checker says the same of values that differ in their tags only, once their own layers are
followed. -/
def IgnoresTags (checker : Checker) : Prop :=
  ∀ value other : Value, value.Variant .retagged other → value.kind ≠ .reference →
    checker value = checker other

theorem Standard.ignoresTags {checker : Checker} (h : Standard checker) : IgnoresTags checker :=
  fun _ _ => h.eq_of_variant

theorem IgnoresFields.ignoresTags {checker : Checker} (h : IgnoresFields checker) :
    IgnoresTags checker :=
  fun _ _ => h.eq_of_variant

variable {config relaxed : Config} {registry : Registry} {list easier : String}
variable {value other : Value}

theorem Value.Variant.retagged (h : value.Variant (.relaxed config) other) :
    value.Variant .retagged other := by
  have hlabel : ∀ field other, (Variation.relaxed config).label field other →
      Variation.retagged.label field other := by
    rintro field other ⟨hname, hpublic, -⟩
    exact ⟨hname, hpublic⟩
  exact h.mono hlabel fun _ _ haside => haside

/-- A list is relaxed, and so are the tags below. -/
inductive Encounter.Relaxed (config : Config) : Encounter → Encounter → Prop
  | unresolved : Relaxed config .unresolved .unresolved
  | value {list easier : String} {resolved found : Value}
      (hlist : CheckList.Relaxed config.checkSeparator list easier)
      (hvalue : resolved.Variant (.relaxed config) found) (hkind : resolved.kind ≠ .reference) :
      Relaxed config (.value list resolved) (.value easier found)
  | hidden : Relaxed config .hidden .hidden

end FieldChecks
