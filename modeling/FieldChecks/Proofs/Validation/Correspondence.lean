import FieldChecks.Proofs.CheckList.Provenance
import FieldChecks.Proofs.Validation.Violations

/-!
# Validation — stations that cannot be told apart

Of a resolved value a validation sees whether it is zero, and what the
checkers of the registry say. Two values that are the same in both are
indistinct (`Value.Indistinct`), and two lines of stations with indistinct
values in one order have one outcome, down to the registry that is left
(`visitAll_eq_of_indistinct`). Fields that agree in what a walk reads are
laid out as such lines when their values are
(`fieldStations_indistinct`).
-/

namespace FieldChecks

variable {P : Checker → Prop} {config : Config} {scope : List String} {list : String}
variable {registry : Registry}

/-- Checkers of a sort do not tell the values apart, nor does the test for zero. -/
structure Value.Indistinct (P : Checker → Prop) (value other : Value) : Prop where
  isZero_eq : value.isZero = other.isZero
  checker_eq : ∀ checker, P checker → checker value = checker other

/-- The encounters differ in the value at most, and not so that checkers of a sort could tell. -/
inductive Encounter.Indistinct (P : Checker → Prop) : Encounter → Encounter → Prop
  | unresolved : Indistinct P .unresolved .unresolved
  | value {list : String} {resolved other : Value} (h : resolved.Indistinct P other) :
      Indistinct P (.value list resolved) (.value list other)
  | hidden : Indistinct P .hidden .hidden

/-- The stations are at one place, with encounters that cannot be told apart. -/
def Station.Indistinct (P : Checker → Prop) (station other : Station) : Prop :=
  station.scope = other.scope ∧ station.encounter.Indistinct P other.encounter

/-! ## Visits -/

/-- Checks of a sort find the same in values that are indistinct. -/
theorem runChecks_eq_of_indistinct {resolved other : Value} (h : resolved.Indistinct P other)
    {checks : List BoundCheck} (hchecks : ∀ check ∈ checks, P check.checker) :
    runChecks config resolved.isZero resolved checks =
      runChecks config other.isZero other checks := by
  rw [h.isZero_eq]
  induction checks with
  | nil => rfl
  | cons check checks ih =>
    obtain ⟨hcheck, hrest⟩ := List.forall_mem_cons.1 hchecks
    rw [runChecks, runChecks, h.checker_eq _ hcheck, ih hrest]

/-- **At one value.** A list is read before the value is looked at, so its checks are the same. -/
theorem checkResolved_eq_of_indistinct (hregistry : registry.Admits P) {resolved other : Value}
    (h : resolved.Indistinct P other) :
    checkResolved config list resolved registry = checkResolved config list other registry := by
  unfold checkResolved
  split
  · rfl
  · rcases hread : CheckList.read config list registry with ⟨_ | checks, registry'⟩
    · rfl
    · have hchecks := hregistry.bindAll (congrArg Prod.fst hread)
      simp only [runChecks_eq_of_indistinct h hchecks]

theorem Station.visit_eq_of_indistinct (hregistry : registry.Admits P) {station other : Station}
    (h : station.Indistinct P other) :
    station.visit config registry = other.visit config registry := by
  obtain ⟨scope, encounter⟩ := station
  obtain ⟨scope', encounter'⟩ := other
  obtain ⟨rfl, hencounter⟩ := h
  cases hencounter with
  | unresolved => rfl
  | value h => simp only [Station.visit, checkResolved_eq_of_indistinct hregistry h]
  | hidden => rfl

/-- A visit leaves a registry that has grown, and so admits no more than before. -/
theorem Station.admits_visit (h : registry.Admits P) (station : Station) :
    (station.visit config registry).2.Admits P :=
  h.keeps (station.visit_keeps (CheckList.Keeps.refl config.argumentSeparator registry)).2

/-- **Along lines of stations that cannot be told apart** by the checkers of the registry. -/
theorem visitAll_eq_of_indistinct (hregistry : registry.Admits P) {stations others : List Station}
    (h : List.Forall₂ (Station.Indistinct P) stations others) :
    visitAll config stations registry = visitAll config others registry := by
  induction h generalizing registry with
  | nil => rfl
  | @cons station other stations others hstation _ ih =>
    rw [visitAll, visitAll, Station.visit_eq_of_indistinct hregistry hstation]
    -- both visits leave one registry, in which the checkers are still of the sort
    have hvisit : (other.visit config registry).2.Admits P := other.admits_visit hregistry
    rcases hother : other.visit config registry with ⟨_ | ⟨⟨⟩⟩, registry'⟩
    · rfl
    · rw [hother] at hvisit
      exact ih hvisit

/-! ## Fields -/

/-- **Fields that agree in what a walk reads** have stations that are related one by one, if that
holds of the values of public fields. -/
theorem fieldStations_forall₂ {R : Station → Station → Prop}
    (hhidden : ∀ scope, R ⟨scope, .hidden⟩ ⟨scope, .hidden⟩) {field other : Field Value}
    (hname : field.name = other.name) (hpublic : field.isPublic = other.isPublic)
    (hlist : field.checkList config = other.checkList config)
    (hrecord : other.isPublic → field.value.leadsToRecord = other.value.leadsToRecord)
    (hstations : other.isPublic → ∀ scope list, List.Forall₂ R
      (stations config scope list field.value) (stations config scope list other.value)) :
    List.Forall₂ R (fieldStations config scope field) (fieldStations config scope other) := by
  rw [fieldStations, fieldStations, hname, hpublic, hlist]
  cases hcase : other.isPublic with
  | false =>
    simp only [Bool.not_false, if_true]
    split
    · exact .cons (hhidden _) .nil
    · exact .nil
  | true =>
    simp only [Bool.not_true, Bool.false_eq_true, if_false, hrecord hcase]
    split
    · exact .nil
    · exact hstations hcase _ _

end FieldChecks
