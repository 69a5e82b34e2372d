import FieldChecks.Pattern.Fault
import FieldChecks.Text.Quoted
import FieldChecks.Value.Kind

/-!
# Errors of checks

Why a checker rejects a value, or why no checker can be made from an
argument.
-/

namespace FieldChecks

/-- The error of a checker, or of a maker of checkers. -/
inductive CheckError where
  /-- The value is zero or absent. -/
  | missing
  /-- The value does not satisfy the check. -/
  | invalid (message : String)
  /-- The check has no meaning for values of a kind. -/
  | unsupportedKind (kind : Kind)
  /-- A pattern is faulty. -/
  | pattern (fault : Pattern.Fault)
  /-- An argument cannot be read. -/
  | argument (given reason : String)
  deriving Repr, DecidableEq

/-- The wording of an error. -/
def CheckError.message : CheckError → String
  | .missing => "value missing"
  | .invalid message => message
  | .unsupportedKind kind => "unsupported kind " ++ kind.name
  | .pattern fault => fault.message
  | .argument given reason => "invalid argument " ++ quoted given ++ ": " ++ reason

end FieldChecks
