import FieldChecks.Proofs.CheckList.Vacancy
import FieldChecks.Proofs.Validation.Correspondence
import FieldChecks.Proofs.Validation.Relaxation

/-!
# Validation — tags that name no check

A tag of separators and blanks names no check, like an empty one. A walk
does not read a tag to see that, though: there is a tag in its way unless
the text is blank. So vacant tags may be put for one another as long as
nothing turns on their being there. Where something does, a walk trips,
and there are two such places: a field that is not public, which must not
have a tag, and a public one whose value does not resolve, which would be
passed by without a tag (`Field.Trips`).

Two walks come to different stations then, as a vacant tag may lead to one
where an empty tag does not. Apart from such idle stations the lines are
the same (`stations_woven`), and so are the results, unless one of the
walks has tripped (`checkValue_sameUnless_trips`).
-/

namespace FieldChecks

/-! ## Vacant tags -/

/-- The lists are the same, or neither names a check. -/
def CheckList.SameOrVacant (separator list other : String) : Prop :=
  list = other ∨ Vacant separator list ∧ Vacant separator other

/-- The tags of fields are others, at any depth, but their check lists are the same, or name no
check. -/
def Variation.vacant (config : Config) : Variation :=
  { Variation.retagged with
    label := fun field other => Variation.retagged.label field other ∧
      CheckList.SameOrVacant config.checkSeparator (field.checkList config) (other.checkList config)
    label_refl := fun field => ⟨Variation.retagged.label_refl field, .inl rfl⟩ }

/-- The tag of the field names no check, and yet it is more than blanks. -/
def Field.HasVacantTag (config : Config) (field : Field Value) : Prop :=
  CheckList.Vacant config.checkSeparator (field.checkList config) ∧
    ¬ Text.isBlank (field.checkList config)

mutual

/-- **The errors of a field that are due to vacant tags.** -/
inductive Field.Trips (config : Config) : Field Value → ValidationError → Prop
  /-- A field that is not public must not have a tag. -/
  | hidden {field : Field Value} (htag : field.HasVacantTag config)
      (hprivate : field.isPublic = false) (hpolicy : config.errorOnPrivate) :
      Field.Trips config field ⟨[field.name], .privateField⟩
  /-- With a tag the value is looked at, and does not resolve. -/
  | unresolved {field : Field Value} (htag : field.HasVacantTag config)
      (hpublic : field.isPublic) (hvalue : field.value.resolve = none) :
      Field.Trips config field ⟨[field.name], .derefLimit Value.layerLimit⟩
  | inside {field : Field Value} {error : ValidationError} (hpublic : field.isPublic)
      (h : Value.Trips config field.value error) :
      Field.Trips config field (error.within field.name)

/-- **The errors in a value that are due to vacant tags**: those of the fields of the record that it
leads to. -/
inductive Value.Trips (config : Config) : Value → ValidationError → Prop
  | field {value resolved : Value} {field : Field Value} {error : ValidationError}
      (hvalue : value.resolve = some resolved) (hfield : field ∈ resolved.fields)
      (h : Field.Trips config field error) : Value.Trips config value error

end

/-- The results are the same, and so is what they leave, unless one of them is an error of the sort
that goes with it. -/
def SameUnless {α : Type} (errors errors' : ValidationError → Prop)
    (one two : Except ValidationError Unit × α) : Prop :=
  one = two ∨ (∃ error, errors error ∧ one.1 = .error error) ∨
    ∃ error, errors' error ∧ two.1 = .error error

/-! ## Lines that differ in idle stations -/

/-- A visit of the station leaves the registry alone, and finds nothing but an error of a sort. -/
def Station.Idle (config : Config) (errors : ValidationError → Prop) (station : Station) : Prop :=
  ∀ registry, station.visit config registry = (.ok (), registry) ∨
    ∃ error, errors error ∧ station.visit config registry = (.error error, registry)

/-- **Two lines of stations** that cannot be told apart but for idle ones, which may stand in
either. -/
inductive Woven (config : Config) (errors errors' : ValidationError → Prop) :
    List Station → List Station → Prop
  | nil : Woven config errors errors' [] []
  | both {station other : Station} {line others : List Station}
      (h : station.Indistinct IgnoresTags other) (hrest : Woven config errors errors' line others) :
      Woven config errors errors' (station :: line) (other :: others)
  | left {station : Station} {line others : List Station} (h : station.Idle config errors)
      (hrest : Woven config errors errors' line others) :
      Woven config errors errors' (station :: line) others
  | right {other : Station} {line others : List Station} (h : other.Idle config errors')
      (hrest : Woven config errors errors' line others) :
      Woven config errors errors' line (other :: others)

variable {config : Config} {registry : Registry} {scope : List String} {value other : Value}
variable {field field' : Field Value} {errors errors' more more' : ValidationError → Prop}
variable {line others : List Station}

/-- **Visits along woven lines** have one outcome, unless one of them ends at an idle station. -/
theorem visitAll_sameUnless (hregistry : registry.Admits IgnoresTags)
    (h : Woven config errors errors' line others) :
    SameUnless errors errors' (visitAll config line registry) (visitAll config others registry) := by
  induction h generalizing registry with
  | nil => exact .inl rfl
  | @both station other line others hstation _ ih =>
    rw [visitAll, visitAll, Station.visit_eq_of_indistinct hregistry hstation]
    have hvisit : (other.visit config registry).2.Admits IgnoresTags :=
      other.admits_visit hregistry
    rcases hother : other.visit config registry with ⟨_ | ⟨⟨⟩⟩, registry'⟩
    · exact .inl rfl
    · rw [hother] at hvisit
      exact ih hvisit
  | left hidle _ ih =>
    rcases hidle registry with hok | ⟨error, herror, hstop⟩
    · rw [visitAll, hok]
      exact ih hregistry
    · refine .inr (.inl ⟨error, herror, ?_⟩)
      rw [visitAll, hstop]
      rfl
  | right hidle _ ih =>
    rcases hidle registry with hok | ⟨error, herror, hstop⟩
    · rw [visitAll, hok]
      exact ih hregistry
    · refine .inr (.inr ⟨error, herror, ?_⟩)
      rw [visitAll, hstop]
      rfl

theorem Station.Idle.mono (hmore : ∀ error, errors error → more error) {station : Station}
    (h : station.Idle config errors) : station.Idle config more := by
  intro registry
  rcases h registry with hok | ⟨error, herror, hstop⟩
  · exact .inl hok
  · exact .inr ⟨error, hmore error herror, hstop⟩

namespace Woven

theorem mono (hmore : ∀ error, errors error → more error)
    (hmore' : ∀ error, errors' error → more' error) (h : Woven config errors errors' line others) :
    Woven config more more' line others := by
  induction h with
  | nil => exact .nil
  | both hstation _ ih => exact .both hstation ih
  | left hidle _ ih => exact .left (hidle.mono hmore) ih
  | right hidle _ ih => exact .right (hidle.mono hmore') ih

theorem append {front front' : List Station} (hfront : Woven config errors errors' front front')
    (h : Woven config errors errors' line others) :
    Woven config errors errors' (front ++ line) (front' ++ others) := by
  induction hfront with
  | nil => exact h
  | both hstation _ ih => exact .both hstation ih
  | left hidle _ ih => exact .left hidle ih
  | right hidle _ ih => exact .right hidle ih

/-- Idle stations are woven with any others. -/
theorem of_idle (h : ∀ station ∈ line, station.Idle config errors)
    (h' : ∀ other ∈ others, other.Idle config errors') :
    Woven config errors errors' line others := by
  induction line with
  | nil =>
    induction others with
    | nil => exact .nil
    | cons other others ih =>
      obtain ⟨hother, hothers⟩ := List.forall_mem_cons.1 h'
      exact .right hother (ih hothers)
  | cons station line ih =>
    obtain ⟨hstation, hline⟩ := List.forall_mem_cons.1 h
    exact .left hstation (ih hline)

/-- The lines of two records are woven when those of their fields are. -/
theorem flatMap {fields fields' : List (Field Value)}
    (h : List.Forall₂ (fun field field' => Woven config errors errors'
      (fieldStations config scope field) (fieldStations config scope field')) fields fields') :
    Woven config errors errors' (fields.flatMap (fieldStations config scope))
      (fields'.flatMap (fieldStations config scope)) := by
  induction h with
  | nil => exact .nil
  | cons hfield _ ih =>
    rw [List.flatMap_cons, List.flatMap_cons]
    exact hfield.append ih

end Woven

/-! ## Laying out values with vacant tags -/

/-- Errors of a sort, as seen from a place that encloses them. -/
def Under (scope : List String) (errors : ValidationError → Prop) (error : ValidationError) :
    Prop :=
  ∃ inner, errors inner ∧ inner.under scope = error

/-- What a public field encloses is one name further down. -/
theorem under_of_under_name (hpublic : field.isPublic) {error : ValidationError}
    (h : Under (scope ++ [field.name]) (field.value.Trips config) error) :
    Under scope (field.Trips config) error := by
  obtain ⟨inner, hinner, rfl⟩ := h
  refine ⟨inner.within field.name, .inside hpublic hinner, ?_⟩
  simp [ValidationError.under, ValidationError.within]

/-- At a value with a vacant list there is nothing to do. -/
theorem Station.idle_of_vacant (hs : config.checkSeparator ≠ "") {list : String}
    (h : CheckList.Vacant config.checkSeparator list) (resolved : Value) :
    Station.Idle config errors ⟨scope, .value list resolved⟩ := by
  intro registry
  have hcheck : checkResolved config list resolved registry = (.ok (), registry) := by
    rw [checkResolved]
    split
    · rfl
    · simp only [CheckList.read_of_vacant hs h, runChecks]
  refine .inl ?_
  simp only [Station.visit, hcheck]
  rfl

/-- **A field with a vacant list has only idle stations**, unless a record is entered. -/
theorem fieldStations_idle (hs : config.checkSeparator ≠ "")
    (hvacant : CheckList.Vacant config.checkSeparator (field.checkList config))
    (hrecord : ¬ (field.isPublic ∧ field.value.leadsToRecord)) :
    ∀ station ∈ fieldStations config scope field,
      station.Idle config (Under scope (field.Trips config)) := by
  intro station hstation
  rw [fieldStations] at hstation
  cases hpublic : field.isPublic with
  | false =>
    simp only [hpublic, Bool.not_false, if_true] at hstation
    split at hstation
    · rename_i hcond
      obtain ⟨hpolicy, htag⟩ := (Bool.and_eq_true _ _).mp hcond
      obtain rfl := List.mem_singleton.1 hstation
      have htrips : field.Trips config ⟨[field.name], .privateField⟩ :=
        .hidden ⟨hvacant, by simpa using htag⟩ hpublic hpolicy
      exact fun registry => .inr ⟨_, ⟨_, htrips, rfl⟩, rfl⟩
    · cases hstation
  | true =>
    have hno : field.value.leadsToRecord = false := by simpa [hpublic] using hrecord
    simp only [hpublic, hno, Bool.not_true, Bool.not_false, Bool.and_true, Bool.false_eq_true,
      if_false] at hstation
    split at hstation
    · cases hstation
    · rename_i htag
      cases hvalue : field.value.resolve with
      | none =>
        rw [stations_of_unresolved hvalue] at hstation
        obtain rfl := List.mem_singleton.1 hstation
        have htrips : field.Trips config ⟨[field.name], .derefLimit Value.layerLimit⟩ :=
          .unresolved ⟨hvacant, htag⟩ hpublic hvalue
        exact fun registry => .inr ⟨_, ⟨_, htrips, rfl⟩, rfl⟩
      | some resolved =>
        -- what is found is no record, and so there is nothing below
        have hkind : resolved.kind ≠ .record := by
          intro hkind
          rw [Value.leadsToRecord, hvalue] at hno
          cases resolved with
          | record name fields => cases hno
          | _ => cases hkind
        rw [stations_of_resolved hvalue, Value.fields_eq_nil hkind, List.flatMap_nil] at hstation
        obtain rfl := List.mem_singleton.1 hstation
        exact Station.idle_of_vacant hs hvacant resolved

/-- **Fields that agree but for vacant tags** have woven lines of stations, if their values do. -/
theorem fieldStations_woven (hs : config.checkSeparator ≠ "")
    (hlabel : (Variation.vacant config).label field field')
    (hrecord : field.value.leadsToRecord = field'.value.leadsToRecord)
    (ih : ∀ scope list list', CheckList.SameOrVacant config.checkSeparator list list' →
      Woven config (Under scope (field.value.Trips config))
        (Under scope (field'.value.Trips config)) (stations config scope list field.value)
        (stations config scope list' field'.value)) (scope : List String) :
    Woven config (Under scope (field.Trips config)) (Under scope (field'.Trips config))
      (fieldStations config scope field) (fieldStations config scope field') := by
  obtain ⟨⟨hname, hpublic⟩, hlist⟩ := hlabel
  by_cases hentered : field.isPublic ∧ field.value.leadsToRecord
  · -- both records are entered, whatever the tags
    obtain ⟨hfield, hleads⟩ := hentered
    have hfield' : field'.isPublic := hpublic ▸ hfield
    have hline : fieldStations config scope field =
        stations config (scope ++ [field.name]) (field.checkList config) field.value := by
      rw [fieldStations, hfield, hleads]
      simp
    have hline' : fieldStations config scope field' =
        stations config (scope ++ [field.name]) (field'.checkList config) field'.value := by
      rw [fieldStations, hfield', ← hrecord, hleads, hname]
      simp
    rw [hline, hline']
    refine (ih _ _ _ hlist).mono (fun _ => under_of_under_name hfield) fun _ => ?_
    rw [hname]
    exact under_of_under_name hfield'
  · have hentered' : ¬ (field'.isPublic ∧ field'.value.leadsToRecord) := by
      rwa [hpublic, hrecord] at hentered
    rcases hlist with hsame | ⟨hvacant, hvacant'⟩
    · -- the tags are the same, and so are the lines up to what the values show
      rw [fieldStations, fieldStations, ← hsame, ← hname, ← hpublic, ← hrecord]
      cases hcase : field.isPublic with
      | false =>
        simp only [Bool.not_false, if_true]
        split
        · exact .both ⟨rfl, .hidden⟩ .nil
        · exact .nil
      | true =>
        simp only [Bool.not_true, Bool.false_eq_true, if_false]
        split
        · exact .nil
        · refine (ih _ _ _ (.inl rfl)).mono (fun _ => under_of_under_name hcase) fun _ => ?_
          rw [hname]
          exact under_of_under_name (hpublic ▸ hcase)
    · exact .of_idle (fieldStations_idle hs hvacant hentered)
        (fieldStations_idle hs hvacant' hentered')

/-- **Values that agree but for vacant tags** have woven lines of stations. -/
theorem stations_woven (hs : config.checkSeparator ≠ "")
    (h : value.Variant (.vacant config) other) (scope : List String) (list list' : String)
    (hlist : CheckList.SameOrVacant config.checkSeparator list list') :
    Woven config (Under scope (value.Trips config)) (Under scope (other.Trips config))
      (stations config scope list value) (stations config scope list' other) := by
  induction value, other, h using Value.Variant.resolve_induction
    generalizing scope list list' with
  | unresolved value other _ hvalue hother =>
    rw [stations_of_unresolved hvalue, stations_of_unresolved hother]
    exact .both ⟨rfl, .unresolved⟩ .nil
  | resolved value other _ resolved found hvalue hother hvariant hfields =>
    rw [stations_of_resolved hvalue, stations_of_resolved hother]
    have hbelow : Woven config (Under scope (value.Trips config))
        (Under scope (other.Trips config))
        (resolved.fields.flatMap (fieldStations config scope))
        (found.fields.flatMap (fieldStations config scope)) := by
      refine .flatMap ?_
      obtain ⟨hlength, hzip⟩ := List.forall₂_iff_zip.1 hfields
      refine List.forall₂_iff_zip.2 ⟨hlength, fun {field field'} hmem => ?_⟩
      obtain ⟨hfield, hfield'⟩ := List.of_mem_zip hmem
      obtain ⟨hlabel, hvaries⟩ := hzip hmem
      obtain ⟨hvalues, ih⟩ := hvaries id
      refine (fieldStations_woven hs hlabel hvalues.leadsToRecord_eq ih scope).mono ?_ ?_
      · rintro _ ⟨inner, hinner, rfl⟩
        exact ⟨inner, .field hvalue hfield hinner, rfl⟩
      · rintro _ ⟨inner, hinner, rfl⟩
        exact ⟨inner, .field hother hfield' hinner, rfl⟩
    rcases hlist with rfl | ⟨hvacant, hvacant'⟩
    · have hlabels : ∀ field field', (Variation.vacant config).label field field' →
          Variation.retagged.label field field' := fun _ _ hlabel => hlabel.1
      have hretagged : resolved.Variant .retagged found :=
        hvariant.mono hlabels fun _ _ haside => haside
      have hkind : resolved.kind ≠ .reference := (Value.resolveWithin_spec hvalue).1
      have hvisit : resolved.Indistinct IgnoresTags found :=
        ⟨hvariant.isZero_eq, fun checker hchecker => hchecker _ _ hretagged hkind⟩
      exact .both ⟨rfl, .value hvisit⟩ hbelow
    · exact .left (Station.idle_of_vacant hs hvacant resolved)
        (.right (Station.idle_of_vacant hs hvacant' found) hbelow)

/-! ## Validations -/

/-- **A tag that names no check is like no tag, unless a walk trips over it.** With checkers that do
not judge by tags, values that agree but for vacant tags have one result and leave one registry,
unless one of the two results is the error of a field with a vacant tag in its value: that the field
is not public, or that its value does not resolve. -/
theorem checkValue_sameUnless_trips (validator : Validator)
    (hconfig : validator.config.validate = .ok ())
    (hregistry : validator.registry.Admits fun checker => Standard checker ∨ IgnoresTags checker)
    (h : value.Variant (.vacant validator.config) other) :
    (∀ list, SameUnless (value.Trips validator.config) (other.Trips validator.config)
      (validator.checkValue value list) (validator.checkValue other list)) ∧
    ∀ lists, SameUnless (value.Trips validator.config) (other.Trips validator.config)
      (validator.validate value lists) (validator.validate other lists) := by
  have hs : validator.config.checkSeparator ≠ "" := (Config.validate_eq_ok_iff.1 hconfig).1
  have hadmits : validator.registry.Admits IgnoresTags :=
    hregistry.mono fun checker hchecker => hchecker.elim Standard.ignoresTags id
  have hcheck : ∀ list, SameUnless (value.Trips validator.config) (other.Trips validator.config)
      (validator.checkValue value list) (validator.checkValue other list) := by
    intro list
    have hwoven := stations_woven hs h [] list list (.inl rfl)
    rw [Validator.checkValue, Validator.checkValue, walkWithin_eq_visitAll, walkWithin_eq_visitAll]
    rcases visitAll_sameUnless hadmits hwoven with
      hsame | ⟨_, ⟨inner, hinner, rfl⟩, hstop⟩ | ⟨_, ⟨inner, hinner, rfl⟩, hstop⟩
    · rw [hsame]
      exact .inl rfl
    · exact .inr (.inl ⟨inner, hinner, hstop⟩)
    · exact .inr (.inr ⟨inner, hinner, hstop⟩)
  exact ⟨hcheck, fun lists => hcheck _⟩

/-- An account with tags of commas and blanks, and the same without: as its validation succeeds, no
walk has tripped. -/
theorem checkValue_sameUnless_trips_of_account :
    let account (tag : String) : Value := .record "Account"
      [⟨"name", .string "ada", true, [("validate", "required")]⟩,
        ⟨"home", .record "Home" [⟨"street", .string "", true, [("validate", tag)]⟩], true,
          [("validate", tag)]⟩]
    Config.validate {} = .ok () ∧
      Registry.builtIn.Admits (fun checker => Standard checker ∨ IgnoresTags checker) ∧
      (account ", ,").Variant (.vacant {}) (account "") ∧
      (Validator.checkValue ⟨{}, .builtIn⟩ (account ", ,") "required").1 = .ok () ∧
      Validator.checkValue ⟨{}, .builtIn⟩ (account ", ,") "required" =
        Validator.checkValue ⟨{}, .builtIn⟩ (account "") "required" := by
  intro account
  have hconfig : Config.validate {} = .ok () := by decide +kernel
  have hregistry : Registry.builtIn.Admits fun checker => Standard checker ∨ IgnoresTags checker :=
    Registry.builtIn_admits.mono fun _ => .inl
  have hlist : CheckList.SameOrVacant "," ", ," "" :=
    .inr ⟨(CheckList.segments_eq_nil_iff (by decide)).1 (by decide +kernel),
      CheckList.vacant_of_isBlank (by decide +kernel)⟩
  have hstreet : Value.Variant (.vacant {})
      (.record "Home" [⟨"street", .string "", true, [("validate", ", ,")]⟩])
      (.record "Home" [⟨"street", .string "", true, [("validate", "")]⟩]) :=
    .of_fields (.cons ⟨⟨⟨rfl, rfl⟩, hlist⟩, fun _ => .same _⟩ .nil)
  have hvalue : (account ", ,").Variant (.vacant {}) (account "") :=
    .of_fields (.cons ⟨Variation.label_refl _ _, fun _ => .same _⟩
      (.cons ⟨⟨⟨rfl, rfl⟩, hlist⟩, fun _ => hstreet⟩ .nil))
  have hok : (Validator.checkValue ⟨{}, .builtIn⟩ (account ", ,") "required").1 = .ok () := by
    decide +kernel
  have hok' : (Validator.checkValue ⟨{}, .builtIn⟩ (account "") "required").1 = .ok () := by
    decide +kernel
  refine ⟨hconfig, hregistry, hvalue, hok, ?_⟩
  rcases (checkValue_sameUnless_trips ⟨{}, .builtIn⟩ hconfig hregistry hvalue).1 "required" with
    hsame | ⟨error, -, hstop⟩ | ⟨error, -, hstop⟩
  · exact hsame
  · rw [hok] at hstop
    cases hstop
  · rw [hok'] at hstop
    cases hstop

/-- With a comma for a tag, a field that is not public and one whose value does not resolve are
errors, and without it they are not; and a checker may judge a record by such a tag. -/
theorem not_checkValue_eq_of_comma :
    let hidden (tag : String) : Value := .record "Account"
      [⟨"key", .int 7, false, [("validate", tag)]⟩]
    let looped (tag : String) : Value := .record "Account"
      [⟨"next", .loop, true, [("validate", tag)]⟩]
    let plain (tag : String) : Value := .record "Account"
      [⟨"name", .string "ada", true, [("validate", tag)]⟩]
    let untagged : Checker := fun value =>
      if value.fields.all fun field => field.tag? "validate" == some "" then .ok ()
      else .error .missing
    let registry := Registry.builtIn.register "untagged" untagged
    let outcome (value : Value) := (Validator.checkValue ⟨{}, registry⟩ value "untagged").1
    Config.validate {} = .ok () ∧ CheckList.Vacant "," "," ∧ CheckList.Vacant "," "" ∧
      (Validator.checkValue ⟨{}, .builtIn⟩ (hidden ",") "").1 = .error ⟨["key"], .privateField⟩ ∧
      (Validator.checkValue ⟨{}, .builtIn⟩ (hidden "") "").1 = .ok () ∧
      (Validator.checkValue ⟨{}, .builtIn⟩ (looped ",") "").1 = .error ⟨["next"], .derefLimit 64⟩ ∧
      (Validator.checkValue ⟨{}, .builtIn⟩ (looped "") "").1 = .ok () ∧
      outcome (plain ",") = .error ⟨[], .checkFailed "untagged" .missing⟩ ∧
      outcome (plain "") = .ok () := by
  intro hidden looped plain untagged registry outcome
  have hcomma : CheckList.Vacant "," "," :=
    (CheckList.segments_eq_nil_iff (by decide)).1 (by decide +kernel)
  have hempty : CheckList.Vacant "," "" := CheckList.vacant_of_isBlank (by decide +kernel)
  refine ⟨by decide +kernel, hcomma, hempty, ?_, ?_, ?_, ?_, ?_, ?_⟩ <;> decide +kernel

end FieldChecks
