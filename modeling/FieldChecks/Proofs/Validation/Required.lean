import FieldChecks.Proofs.CheckList.Calling
import FieldChecks.Proofs.Validation.Stations
import FieldChecks.Proofs.Value.Leaves

/-!
# Validation — what is required

A list that is the name of a checker is one check (`read_of_name`). Where
the name is `required`, the check that runs is the negation of zero, and
as it is exempt from the rule that zero values are passed over, it fails
for a zero value and for no other. Below the outermost value every error
has a field in its scope (`scope_of_walkFields`), so what fails without
one is told by zero alone (`required_iff_zero`).
-/

namespace FieldChecks

/-! ## Errors below the outermost value -/

variable {config : Config} {registry : Registry} {value resolved : Value} {error : ValidationError}

/-- An error in a field names the field first. -/
theorem scope_of_walkField {field : Field Value}
    (h : (walkField config field registry).1 = .error error) :
    ∃ rest, error.scope = field.name :: rest := by
  obtain ⟨name, value, isPublic, tags⟩ := field
  rw [walkField] at h
  split at h
  · -- a field that is not public
    split at h
    · cases h
      exact ⟨[], rfl⟩
    · cases h
  · split at h
    · cases h
    · -- a field that is entered
      split at h
      · cases h
        exact ⟨_, rfl⟩
      · cases h

/-- **An error below a record has a field in its scope.** -/
theorem scope_of_walkFields {fields : List (Field Value)}
    (h : (walkFields config fields registry).1 = .error error) : error.scope ≠ [] := by
  induction fields generalizing registry with
  | nil =>
    rw [walkFields] at h
    cases h
  | cons field fields ih =>
    rw [walkFields_cons] at h
    rcases hfield : walkField config field registry with ⟨other | ⟨⟨⟩⟩, after⟩
    · obtain ⟨rest, hscope⟩ := scope_of_walkField (congrArg Prod.fst hfield)
      rw [hfield] at h
      cases h
      simp [hscope]
    · rw [hfield] at h
      exact ih h

/-! ## A list of one name -/

namespace CheckList

variable {name : String} {checker : Checker}

theorem ne_empty_of_not_contains {separator text : String} (h : ¬ Text.Contains separator text) :
    separator ≠ "" := by
  rintro rfl
  exact h List.nil_infix

/-- **The name of a checker is read as one check**, if neither separator stands in it. -/
theorem read_of_name (hname : registry.checker? name = some checker)
    (hcheck : ¬ Text.Contains config.checkSeparator name)
    (hargument : ¬ Text.Contains config.argumentSeparator name)
    (htrim : Text.trim name = name) (hne : name ≠ "") :
    read config name registry = (.ok [⟨name, checker⟩], registry) := by
  have hdisplay : displayName config.argumentSeparator name = name := by
    rw [displayName, Text.cut?_eq_none_iff.2 hargument]
  rw [read, segments_of_uncut (ne_empty_of_not_contains hcheck) hcheck htrim hne, bindAll,
    bindSegment_of_checker? hname, hdisplay]
  rfl

end CheckList

/-! ## The check of the outermost value -/

/-- `required` asks for the built-in check, zero values included. -/
structure Validator.Requires (validator : Validator) : Prop where
  builtIn : validator.registry.checker? "required" = some required
  exempt : validator.config.isExempt "required" = true
  uncut : ¬ Text.Contains validator.config.checkSeparator "required"
  uncalled : ¬ Text.Contains validator.config.argumentSeparator "required"

variable {validator : Validator} {list : String}

/-- The list `required` fails for a zero value and for no other. -/
theorem checkResolved_required (h : validator.Requires) (value : Value) :
    checkResolved validator.config "required" value validator.registry =
      (if value.isZero then .error (.atRoot (.checkFailed "required" .missing)) else .ok (),
        validator.registry) := by
  have hread : CheckList.read validator.config "required" validator.registry =
      (.ok [⟨"required", required⟩], validator.registry) :=
    CheckList.read_of_name h.builtIn h.uncut h.uncalled (by decide) (by decide)
  have hblank : ¬ Text.isBlank "required" = true := by decide
  rw [checkResolved, if_neg hblank, hread]
  cases hzero : value.isZero <;> simp [runChecks, required, h.exempt, hzero]

theorem checkValue_of_unresolved (hvalue : value.resolve = none) :
    (validator.checkValue value list).1 = .error ⟨[], .derefLimit 64⟩ := by
  rw [Validator.checkValue, walkWithin_of_unresolved hvalue]
  rfl

/-- **Zero ends the walk at the root**, and everything else goes on to the fields. -/
theorem checkValue_required (h : validator.Requires) (hvalue : value.resolve = some resolved) :
    (validator.checkValue value "required").1 =
      if value.isZero then .error ⟨[], .checkFailed "required" .missing⟩
      else (walkFields validator.config resolved.fields validator.registry).1 := by
  rw [Validator.checkValue, walkWithin_of_resolved hvalue, checkResolved_required h,
    Value.isZero_of_resolve hvalue]
  cases resolved.isZero <;> rfl

/-- **What fails at the root is zero or does not resolve.** -/
theorem checkValue_required_root_iff (h : validator.Requires) {failure : Failure} :
    (validator.checkValue value "required").1 = .error ⟨[], failure⟩ ↔
      (value.isZero = true ∧ failure = .checkFailed "required" .missing) ∨
        (value.resolve = none ∧ failure = .derefLimit 64) := by
  cases hvalue : value.resolve with
  | none =>
    rw [checkValue_of_unresolved hvalue]
    simp [Value.isZero_of_unresolved hvalue, eq_comm]
  | some resolved =>
    rw [checkValue_required h hvalue]
    cases hzero : value.isZero with
    | true => simp [eq_comm]
    | false =>
      simp only [Bool.false_eq_true, if_false, false_and, reduceCtorEq, or_self, iff_false]
      exact fun herror => scope_of_walkFields herror rfl

/-- **Zero is decided by the leaves, and required is its negation.** A value is zero if whatever is
come to through the fields of records resolves, to a record or to a zero leaf; a record without
fields is zero, and nought with a minus sign is not. A value is as zero as what it resolves to, and
not zero if it does not resolve. Where the list `required` asks for the built-in check, it fails at
the root with that check for a value that resolves and is zero, with the limit of layers for one
that does not resolve, and with nothing else. -/
theorem required_iff_zero (value : Value) :
    (value.isZero = true ↔ ∀ reached, Value.Reached value reached →
      ∃ resolved, reached.resolve = some resolved ∧
        (resolved.kind = .record ∨ Value.ZeroLeaf resolved)) ∧
    (∀ name, (Value.record name []).isZero = true) ∧
    (Value.float (.zero true)).isZero = false ∧
    (∀ resolved, value.resolve = some resolved → value.isZero = resolved.isZero) ∧
    (value.resolve = none → value.isZero = false) ∧
    ∀ validator : Validator, validator.Requires →
      ((validator.checkValue value "required").1 =
          .error ⟨[], .checkFailed "required" .missing⟩ ↔
        (∃ resolved, value.resolve = some resolved) ∧ value.isZero = true) ∧
      ((validator.checkValue value "required").1 = .error ⟨[], .derefLimit 64⟩ ↔
        value.resolve = none) ∧
      ∀ failure, (validator.checkValue value "required").1 = .error ⟨[], failure⟩ →
        failure = .checkFailed "required" .missing ∨ failure = .derefLimit 64 := by
  refine ⟨Value.isZero_iff_reached, fun name => rfl, by decide, fun _ => Value.isZero_of_resolve,
    Value.isZero_of_unresolved, fun validator h => ⟨?missing, ?limit, fun failure herror => ?other⟩⟩
  case missing =>
    rw [checkValue_required_root_iff h]
    simp only [and_true, reduceCtorEq, and_false, or_false]
    exact ⟨fun hzero => ⟨(Value.isRecordOrZero_of_isZero hzero).imp fun _ => And.left, hzero⟩,
      And.right⟩
  case limit =>
    rw [checkValue_required_root_iff h]
    simp
  case other =>
    exact ((checkValue_required_root_iff h).1 herror).imp And.right And.right

/-- A record of zero leaves behind a layer, and the same with a minus sign in a field that is not
public, under the default configuration. -/
theorem required_iff_zero_of_account :
    let account (balance : Binary64) : Value := .reference (some (.record "Account"
      [⟨"name", .string "", true, []⟩, ⟨"balance", .reference (some (.float balance)), false, []⟩]))
    Validator.Requires ⟨{}, .builtIn⟩ ∧
      (Validator.checkValue ⟨{}, .builtIn⟩ (account (.zero false)) "required").1 =
        .error ⟨[], .checkFailed "required" .missing⟩ ∧
      (Validator.checkValue ⟨{}, .builtIn⟩ (account (.zero true)) "required").1 ≠
        .error ⟨[], .checkFailed "required" .missing⟩ ∧
      (Validator.checkValue ⟨{}, .builtIn⟩ .loop "required").1 = .error ⟨[], .derefLimit 64⟩ := by
  intro account
  have hrequires : Validator.Requires ⟨{}, .builtIn⟩ :=
    ⟨rfl, by decide, by decide, by decide⟩
  obtain ⟨-, -, -, -, -, hzero⟩ := required_iff_zero (account (.zero false))
  obtain ⟨-, -, -, -, -, hsigned⟩ := required_iff_zero (account (.zero true))
  obtain ⟨-, -, -, -, -, hloop⟩ := required_iff_zero .loop
  refine ⟨hrequires, (hzero _ hrequires).1.2 ⟨⟨_, rfl⟩, by decide⟩, fun h => ?_,
    (hloop _ hrequires).2.1.2 rfl⟩
  have hminus : (account (.zero true)).isZero = false := by decide
  rw [(hsigned _ hrequires).1, hminus] at h
  exact nomatch h.2

end FieldChecks
