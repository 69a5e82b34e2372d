import FieldChecks.Json.Fault

/-!
# Configurations

A configuration names the tag that carries check lists, the two texts
that separate checks from each other and a check from its argument, the
checks that also look at zero values, and says whether checks on a field
that is not public are an error. The separators must not be empty, nor
equal.
-/

namespace FieldChecks

/-- How a validator reads tags and runs checks. -/
structure Config where
  tagName : String := "validate"
  checkSeparator : String := ","
  argumentSeparator : String := ":"
  /-- The names of the checks that zero values do not escape. -/
  exempt : List String := ["required", "eq", "ne", "min", "max"]
  errorOnPrivate : Bool := true
  deriving Repr, DecidableEq

/-- The two separators of a check list. -/
inductive Separator where
  | check
  | argument
  deriving Repr, DecidableEq

/-- The word for a separator in messages. -/
def Separator.name : Separator → String
  | .check => "check"
  | .argument => "argument"

/-- Why a configuration cannot be used. -/
inductive ConfigError where
  | emptySeparator (which : Separator)
  | sameSeparators (separator : String)
  | json (fault : Json.Fault)
  deriving Repr, DecidableEq

/-- The wording of a configuration error. -/
def ConfigError.message : ConfigError → String
  | .emptySeparator which => which.name ++ " separator cannot be empty"
  | .sameSeparators separator =>
    "check separator and argument separator must differ (both " ++ quoted separator ++ ")"
  | .json fault => "invalid configuration JSON: " ++ fault.message

namespace Config

/-- Whether a check looks at zero values too. -/
def isExempt (config : Config) (check : String) : Bool :=
  config.exempt.contains check

/-- The configuration with one more check that looks at zero values. -/
def exempting (config : Config) (check : String) : Config :=
  if config.isExempt check then config else { config with exempt := config.exempt ++ [check] }

/-- Whether the separators can be used. -/
def validate (config : Config) : Except ConfigError Unit :=
  if config.checkSeparator.isEmpty then .error (.emptySeparator .check)
  else if config.argumentSeparator.isEmpty then .error (.emptySeparator .argument)
  else if config.checkSeparator = config.argumentSeparator then
    .error (.sameSeparators config.checkSeparator)
  else .ok ()

/-- **Separators can be used** when neither is empty and they are not the same. -/
theorem validate_eq_ok_iff {config : Config} :
    config.validate = .ok () ↔ config.checkSeparator ≠ "" ∧ config.argumentSeparator ≠ "" ∧
      config.checkSeparator ≠ config.argumentSeparator := by
  simp only [validate, ne_eq, ← String.isEmpty_iff]
  by_cases hcheck : config.checkSeparator.isEmpty
  · simp [hcheck]
  · by_cases hargument : config.argumentSeparator.isEmpty
    · simp [hcheck, hargument]
    · by_cases hsame : config.checkSeparator = config.argumentSeparator <;>
        simp [hcheck, hargument, hsame]

/-- The description of a configuration. -/
def describe (config : Config) : String :=
  "ValidatorConfig \x7b tag_name: " ++ quoted config.tagName ++
    ", check_separator: " ++ quoted config.checkSeparator ++
    ", argument_separator: " ++ quoted config.argumentSeparator ++
    ", dont_skip_zero: " ++ quotedList config.exempt ++
    ", error_on_private: " ++ (if config.errorOnPrivate then "true" else "false") ++ " \x7d"

end Config

end FieldChecks
