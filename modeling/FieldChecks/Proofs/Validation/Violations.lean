import FieldChecks.Proofs.Validation.Stations

/-!
# Validation — the first violation of a reading

`violations` reads everything that is wrong with a value, at all of its
places and in the order of a walk, against one registry and without
stopping anywhere. A validation gives the first of these and succeeds if
there are none (`checkValue_eq_firstOf_violations`). The registry that it
leaves has grown by the checkers of the segments that it came to
(`visitAll_keeps`), and such growth is not seen by what follows.
-/

namespace FieldChecks

variable {config : Config} {base registry : Registry} {kept : List String}

/-- The first of some errors, if there is one. -/
def firstOf {ε : Type} : List ε → Except ε Unit
  | [] => .ok ()
  | error :: _ => .error error

theorem firstOf_map {ε φ : Type} (f : ε → φ) (errors : List ε) :
    firstOf (errors.map f) = (firstOf errors).mapError f := by
  cases errors <;> rfl

/-! ## The reading -/

/-- What a check says against a resolved value. It says nothing against a zero value, unless its
name is exempt. -/
def BoundCheck.rejection? (config : Config) (value : Value) (check : BoundCheck) : Option Failure :=
  if value.isZero && !config.isExempt check.name then none
  else match check.checker value with
    | .error cause => some (.checkFailed check.name cause)
    | .ok () => none

/-- What a list of checks says against a resolved value: that it cannot be read, or what its checks
say. -/
def listFailures (config : Config) (registry : Registry) (list : String) (value : Value) :
    List Failure :=
  if Text.isBlank list then []
  else match (CheckList.read config list registry).1 with
    | .error failure => [failure]
    | .ok checks => checks.filterMap (·.rejection? config value)

/-- What is wrong at a station. -/
def Station.failures (config : Config) (registry : Registry) (station : Station) : List Failure :=
  match station.encounter with
  | .unresolved => [.derefLimit Value.layerLimit]
  | .value list resolved => listFailures config registry list resolved
  | .hidden => [.privateField]

/-- The same, with the place. -/
def Station.violations (config : Config) (registry : Registry) (station : Station) :
    List ValidationError :=
  (station.failures config registry).map (⟨station.scope, ·⟩)

/-- **Everything that is wrong with a value**, in the order of a walk. -/
def violations (config : Config) (registry : Registry) (scope : List String) (list : String)
    (value : Value) : List ValidationError :=
  (stations config scope list value).flatMap (·.violations config registry)

/-! ## What a validation comes to -/

/-- The segments that are bound at a station. -/
def Station.bound (config : Config) (registry : Registry) (station : Station) : List String :=
  match station.encounter with
  | .value list _ =>
    if Text.isBlank list then []
    else CheckList.bindable config.argumentSeparator
      (CheckList.segments config.checkSeparator list) registry
  | .unresolved | .hidden => []

/-- The segments that are bound along some stations, up to the first one where something is
wrong. -/
def boundAlong (config : Config) (registry : Registry) : List Station → List String
  | [] => []
  | station :: stations => station.bound config registry ++
    if (station.failures config registry).isEmpty then boundAlong config registry stations else []

/-! ## Validation meets the reading -/

theorem runChecks_eq (value : Value) (checks : List BoundCheck) :
    runChecks config value.isZero value checks =
      firstOf (checks.filterMap (·.rejection? config value)) := by
  induction checks with
  | nil => rfl
  | cons check checks ih =>
    rw [runChecks]
    by_cases hskip : value.isZero && !config.isExempt check.name
    · have hnone : check.rejection? config value = none := by
        rw [BoundCheck.rejection?, if_pos hskip]
      rw [if_pos hskip, List.filterMap_cons_none hnone, ih]
    · rw [if_neg hskip]
      cases hcheck : check.checker value with
      | error cause =>
        have hsome : check.rejection? config value = some (.checkFailed check.name cause) := by
          rw [BoundCheck.rejection?, if_neg hskip, hcheck]
        rw [List.filterMap_cons_some hsome]
        rfl
      | ok =>
        have hnone : check.rejection? config value = none := by
          rw [BoundCheck.rejection?, if_neg hskip, hcheck]
        rw [List.filterMap_cons_none hnone, ← ih]

/-- **At one value**, against a registry that has grown from `base`. -/
theorem checkResolved_keeps (h : CheckList.Keeps config.argumentSeparator kept base registry)
    (scope : List String) (list : String) (value : Value) :
    (checkResolved config list value registry).1 =
        (firstOf (listFailures config base list value)).mapError .atRoot ∧
      CheckList.Keeps config.argumentSeparator
        (kept ++ Station.bound config base ⟨scope, .value list value⟩) base
        (checkResolved config list value registry).2 := by
  unfold checkResolved listFailures Station.bound
  by_cases hblank : Text.isBlank list
  · simp only [hblank, if_true, List.append_nil]
    exact ⟨rfl, h⟩
  · simp only [hblank, Bool.false_eq_true, if_false]
    obtain ⟨hfst, hkeeps⟩ := h.bindAll (CheckList.segments config.checkSeparator list)
    rw [← CheckList.read, ← CheckList.read] at hfst
    rw [← CheckList.read] at hkeeps
    rw [← hfst]
    rcases hread : CheckList.read config list registry with ⟨result, registry'⟩
    rw [hread] at hkeeps
    cases result with
    | error failure => exact ⟨rfl, hkeeps⟩
    | ok checks =>
      simp only [runChecks_eq]
      cases firstOf (checks.filterMap (·.rejection? config value)) with
      | error failure => exact ⟨rfl, hkeeps⟩
      | ok => exact ⟨rfl, hkeeps⟩

/-- **At one station.** -/
theorem Station.visit_keeps (h : CheckList.Keeps config.argumentSeparator kept base registry)
    (station : Station) :
    (station.visit config registry).1 = firstOf (station.violations config base) ∧
      CheckList.Keeps config.argumentSeparator (kept ++ station.bound config base) base
        (station.visit config registry).2 := by
  obtain ⟨scope, encounter⟩ := station
  cases encounter with
  | unresolved => exact ⟨rfl, by simpa [Station.bound, Station.visit] using h⟩
  | hidden => exact ⟨rfl, by simpa [Station.bound, Station.visit] using h⟩
  | value list resolved =>
    obtain ⟨hfst, hkeeps⟩ := checkResolved_keeps h scope list resolved
    refine ⟨?_, hkeeps⟩
    simp only [Station.visit, Outcome.under, hfst, Station.violations, Station.failures,
      firstOf_map]
    cases firstOf (listFailures config base list resolved) with
    | error failure =>
      simp [Except.mapError, ValidationError.under, ValidationError.atRoot]
    | ok => rfl

/-- **Along a line of stations** the first violation is the result, and what is kept are the
segments bound up to there. -/
theorem visitAll_keeps (h : CheckList.Keeps config.argumentSeparator kept base registry)
    (stations : List Station) :
    (visitAll config stations registry).1 =
        firstOf (stations.flatMap (·.violations config base)) ∧
      CheckList.Keeps config.argumentSeparator (kept ++ boundAlong config base stations) base
        (visitAll config stations registry).2 := by
  induction stations generalizing kept registry with
  | nil => exact ⟨rfl, by simpa [boundAlong, visitAll] using h⟩
  | cons station stations ih =>
    obtain ⟨hfst, hkeeps⟩ := station.visit_keeps h
    rw [visitAll, List.flatMap_cons, boundAlong]
    rcases hvisit : station.visit config registry with ⟨result, registry'⟩
    rw [hvisit] at hfst hkeeps
    cases hfailures : station.failures config base with
    | nil =>
      -- nothing is wrong here, and the rest is visited in a registry that has grown once more
      have hviolations : station.violations config base = [] := by
        rw [Station.violations, hfailures, List.map_nil]
      rw [hviolations] at hfst ⊢
      obtain rfl : result = .ok () := hfst
      obtain ⟨hrest, hgrown⟩ := ih hkeeps
      exact ⟨hrest, by simpa [Outcome.andThen] using hgrown⟩
    | cons failure failures =>
      have hviolations : station.violations config base = ⟨station.scope, failure⟩ ::
          failures.map (⟨station.scope, ·⟩) := by
        rw [Station.violations, hfailures, List.map_cons]
      rw [hviolations] at hfst ⊢
      obtain rfl : result = .error ⟨station.scope, failure⟩ := hfst
      exact ⟨rfl, by simpa [Outcome.andThen] using hkeeps⟩

/-- A walk against a registry that has grown from `base`. -/
theorem walkWithin_keeps (h : CheckList.Keeps config.argumentSeparator kept base registry)
    (list : String) (value : Value) :
    (walkWithin config Value.layerLimit list value registry).1 =
        firstOf (violations config base [] list value) ∧
      CheckList.Keeps config.argumentSeparator
        (kept ++ boundAlong config base (stations config [] list value)) base
        (walkWithin config Value.layerLimit list value registry).2 := by
  rw [walkWithin_eq_visitAll]
  exact visitAll_keeps h _

/-- **A validation gives the first violation**, and succeeds if there is none. The violations are
those of the whole value against the registry that the validation starts with. -/
theorem checkValue_eq_firstOf_violations (validator : Validator) (value : Value) :
    (∀ list, (validator.checkValue value list).1 =
      firstOf (violations validator.config validator.registry [] list value)) ∧
    ∀ lists, (validator.validate value lists).1 =
      firstOf (violations validator.config validator.registry []
        (validator.config.checkSeparator.intercalate lists) value) := by
  have hcheck : ∀ list, (validator.checkValue value list).1 =
      firstOf (violations validator.config validator.registry [] list value) := fun list =>
    (walkWithin_keeps (CheckList.Keeps.refl _ _) list value).1
  exact ⟨hcheck, fun lists => hcheck _⟩

end FieldChecks
