import FieldChecks.CheckList

/-!
# Validation

A validator walks a value and runs the checks that stand for it: those of
the list it is given, and for every field of a record those of the
field's tag, in the order of the fields and with a record's own checks
before those of its fields. Layers are followed, and the first failure
ends the walk.

Most checks pass over a zero value. A field that is not public is never
looked into: that it carries checks is an error, or does not matter. A
public field without checks is only looked into if it leads to a record.
-/

namespace FieldChecks

/-- Runs checks on a value that is zero or not. -/
def runChecks (config : Config) (isZero : Bool) (value : Value) : List BoundCheck →
    Except Failure Unit
  | [] => .ok ()
  | check :: checks =>
    if isZero && !config.isExempt check.name then runChecks config isZero value checks
    else match check.checker value with
      | .error cause => .error (.checkFailed check.name cause)
      | .ok () => runChecks config isZero value checks

/-- Runs the checks of a list on a value whose layers have been followed. -/
def checkResolved (config : Config) (list : String) (value : Value) (registry : Registry) :
    Except ValidationError Unit × Registry :=
  if Text.isBlank list then (.ok (), registry)
  else match CheckList.read config list registry with
    | (.error failure, registry) => (.error (.atRoot failure), registry)
    | (.ok checks, registry) => match runChecks config value.isZero value checks with
      | .error failure => (.error (.atRoot failure), registry)
      | .ok () => (.ok (), registry)

/-- What a value resolves to, or the failure of a value that does not resolve. -/
def Value.resolution (value : Value) : Except Failure Value :=
  match value.resolve with
  | some resolved => .ok resolved
  | none => .error (.derefLimit Value.layerLimit)

/-- The error of a value that does not resolve. -/
def unresolved : ValidationError :=
  .atRoot (.derefLimit Value.layerLimit)

mutual

/-- Walks a value behind at most `layers` layers, starting with the checks of a list. -/
def walkWithin (config : Config) (layers : Nat) (list : String) : Value → Registry →
    Except ValidationError Unit × Registry
  | .reference none, registry => match layers with
    | 0 => (.error unresolved, registry)
    | _ + 1 => checkResolved config list .absent registry
  | .reference (some inner), registry => match layers with
    | 0 => (.error unresolved, registry)
    | layers + 1 => walkWithin config layers list inner registry
  | .loop, registry => (.error unresolved, registry)
  | .record name fields, registry =>
    match checkResolved config list (.record name fields) registry with
    | (.error error, registry) => (.error error, registry)
    | (.ok (), registry) => walkFields config fields registry
  | value, registry => checkResolved config list value registry

/-- Walks the fields of a record. -/
def walkFields (config : Config) : List (Field Value) → Registry →
    Except ValidationError Unit × Registry
  | [], registry => (.ok (), registry)
  | field :: fields, registry => match walkField config field registry with
    | (.error error, registry) => (.error error, registry)
    | (.ok (), registry) => walkFields config fields registry

/-- Walks a field: the checks of its tag, and what lies below. -/
def walkField (config : Config) : Field Value → Registry →
    Except ValidationError Unit × Registry
  | ⟨name, value, isPublic, tags⟩, registry =>
    let list := (tags.lookup config.tagName).getD ""
    if !isPublic then
      if config.errorOnPrivate && !Text.isBlank list then (.error ⟨[name], .privateField⟩, registry)
      else (.ok (), registry)
    else if Text.isBlank list && !value.leadsToRecord then (.ok (), registry)
    else match walkWithin config Value.layerLimit list value registry with
      | (.error error, registry) => (.error (error.within name), registry)
      | (.ok (), registry) => (.ok (), registry)

end

/-- A configuration and the checkers that check lists can name. -/
structure Validator where
  config : Config
  registry : Registry

namespace Validator

/-- Walks a value, starting with the checks of a list. -/
def checkValue (validator : Validator) (value : Value) (list : String) :
    Except ValidationError Unit × Validator :=
  match walkWithin validator.config Value.layerLimit list value validator.registry with
  | (result, registry) => (result, { validator with registry })

/-- Walks a value, starting with the checks of some lists. -/
def validate (validator : Validator) (value : Value) (lists : List String) :
    Except ValidationError Unit × Validator :=
  validator.checkValue value (validator.config.checkSeparator.intercalate lists)

/-- The checks that a list asks for. -/
def read (validator : Validator) (list : String) :
    Except Failure (List BoundCheck) × Validator :=
  match CheckList.read validator.config list validator.registry with
  | (result, registry) => (result, { validator with registry })

/-- The description of a validator. -/
def describe (validator : Validator) : String :=
  "Validator \x7b config: " ++ validator.config.describe ++ ", registry: " ++
    validator.registry.describe ++ " \x7d"

end Validator

end FieldChecks
