import FieldChecks.Proofs.Checks.Standard
import FieldChecks.Proofs.Validation.Correspondence

/-!
# Validation — layers are not seen

A validation of values that are alike comes to stations that are alike
(`stations_alike`). Checkers that answer alike, as the standard ones do,
do not tell these apart (`Station.Alike.indistinct`), and so the
validations have one outcome (`visitAll_eq_of_alike`), down to the
registry that they leave.
-/

namespace FieldChecks

/-! ## Stations that are alike -/

/-- The encounters differ in layers below the resolved value at most. -/
inductive Encounter.Alike : Encounter → Encounter → Prop
  | unresolved : Alike .unresolved .unresolved
  | value {list : String} {resolved other : Value} (h : resolved.Alike other)
      (hkind : resolved.kind ≠ .reference) (hother : other.kind ≠ .reference) :
      Alike (.value list resolved) (.value list other)
  | hidden : Alike .hidden .hidden

/-- The stations are at one place, with encounters that are alike. -/
def Station.Alike (station other : Station) : Prop :=
  station.scope = other.scope ∧ station.encounter.Alike other.encounter

variable {config : Config} {scope : List String} {list : String}

/-- Fields that correspond have stations that are alike, if that holds of their values. -/
theorem fieldStations_alike {field other : Field Value}
    (hlabel : field.SameLabel other) (hvalue : field.value.Alike other.value)
    (hstations : ∀ scope list, List.Forall₂ Station.Alike (stations config scope list field.value)
      (stations config scope list other.value)) :
    List.Forall₂ Station.Alike (fieldStations config scope field)
      (fieldStations config scope other) := by
  obtain ⟨hname, hpublic, htags⟩ := hlabel
  have hlist : field.checkList config = other.checkList config := by
    rw [Field.checkList, Field.checkList, Field.tag?, Field.tag?, htags]
  exact fieldStations_forall₂ (fun _ => ⟨rfl, .hidden⟩) hname hpublic hlist
    (fun _ => hvalue.leadsToRecord_eq) fun _ => hstations

/-- **Values that are alike have stations that are alike.** -/
theorem stations_alike {value other : Value} (h : value.Alike other) (scope : List String)
    (list : String) : List.Forall₂ Station.Alike (stations config scope list value)
      (stations config scope list other) := by
  induction h generalizing scope list with
  | unresolved h hother =>
    rw [stations_of_unresolved h, stations_of_unresolved hother]
    exact .cons ⟨rfl, .unresolved⟩ .nil
  | plain h hother hkind =>
    have hlayer := (Value.resolveWithin_spec h).1
    rw [stations_of_resolved h, stations_of_resolved hother, Value.fields_eq_nil hkind]
    exact .cons ⟨rfl, .value (.refl _) hlayer hlayer⟩ .nil
  | record h hother hlabels hvalues ih =>
    have hlayer := (Value.resolveWithin_spec h).1
    have hlayer' := (Value.resolveWithin_spec hother).1
    rw [stations_of_resolved h, stations_of_resolved hother]
    refine .cons ⟨rfl, .value (.record rfl rfl hlabels hvalues) hlayer hlayer'⟩ ?_
    -- the fields are laid out one by one, each like the one it corresponds to
    have hfields : List.Forall₂ (Field.Corresponds fun value other => value.Alike other ∧
        ∀ scope list, List.Forall₂ Station.Alike (stations config scope list value)
          (stations config scope list other)) _ _ :=
      Value.forall₂_corresponds hlabels fun field other hmem =>
        ⟨hvalues field other hmem, ih field other hmem⟩
    exact List.rel_flatMap hfields fun field other hfield =>
      fieldStations_alike hfield.1 hfield.2.1 hfield.2.2

/-! ## Visits -/

/-- Checkers that answer alike do not tell stations apart that are alike. -/
theorem Station.Alike.indistinct {station other : Station} (h : station.Alike other) :
    station.Indistinct AnswersAlike other := by
  obtain ⟨scope, encounter⟩ := station
  obtain ⟨scope', encounter'⟩ := other
  obtain ⟨rfl, halike⟩ := h
  refine ⟨rfl, ?_⟩
  cases halike with
  | unresolved => exact .unresolved
  | value h hkind hother =>
    exact .value ⟨h.isZero_eq, fun checker hchecker => hchecker _ _ h hkind hother⟩
  | hidden => exact .hidden

/-- **Along lines of stations that are alike.** -/
theorem visitAll_eq_of_alike {registry : Registry} (hregistry : registry.Admits AnswersAlike)
    {stations others : List Station} (h : List.Forall₂ Station.Alike stations others) :
    visitAll config stations registry = visitAll config others registry :=
  visitAll_eq_of_indistinct hregistry (h.imp fun _ _ => Station.Alike.indistinct)

/-- **A validation does not see layers.** -/
theorem checkValue_eq_of_alike (validator : Validator)
    (hregistry : validator.registry.Admits fun checker => Standard checker ∨ AnswersAlike checker)
    {value other : Value} (h : value.Alike other) :
    (∀ list, validator.checkValue value list = validator.checkValue other list) ∧
      ∀ lists, validator.validate value lists = validator.validate other lists := by
  have hadmits : validator.registry.Admits AnswersAlike :=
    hregistry.mono fun checker hchecker => hchecker.elim Standard.answersAlike id
  have hcheck : ∀ list, validator.checkValue value list = validator.checkValue other list := by
    intro list
    rw [Validator.checkValue, Validator.checkValue, walkWithin_eq_visitAll, walkWithin_eq_visitAll,
      visitAll_eq_of_alike hadmits (stations_alike h [] list)]
  exact ⟨hcheck, fun lists => hcheck _⟩

/-- With the built-in checks, a box around nothing and a box behind a layer, around a layer around
nothing. -/
theorem checkValue_eq_of_alike_of_boxes :
    Registry.builtIn.Admits (fun checker => Standard checker ∨ AnswersAlike checker) ∧
      Value.Alike (.record "Box" [⟨"item", .absent, true, [("validate", "required")]⟩])
        (.reference (some (.record "Box"
          [⟨"item", .reference none, true, [("validate", "required")]⟩]))) ∧
      Validator.checkValue ⟨{}, .builtIn⟩
          (.record "Box" [⟨"item", .absent, true, [("validate", "required")]⟩]) "required" =
        Validator.checkValue ⟨{}, .builtIn⟩
          (.reference (some (.record "Box"
            [⟨"item", .reference none, true, [("validate", "required")]⟩]))) "required" := by
  have hregistry : Registry.builtIn.Admits fun checker => Standard checker ∨ AnswersAlike checker :=
    Registry.builtIn_admits.mono fun _ => .inl
  have halike : Value.Alike (.record "Box" [⟨"item", .absent, true, [("validate", "required")]⟩])
      (.reference (some (.record "Box"
        [⟨"item", .reference none, true, [("validate", "required")]⟩]))) :=
    .of_fields rfl rfl (.cons ⟨⟨rfl, rfl, rfl⟩, .of_resolve_eq rfl⟩ .nil)
  exact ⟨hregistry, halike, (checkValue_eq_of_alike ⟨{}, .builtIn⟩ hregistry halike).1 "required"⟩

end FieldChecks
