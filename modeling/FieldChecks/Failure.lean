import FieldChecks.CheckError

/-!
# Failures

A validation stops at its first failure: a check rejects the value, a
check list cannot be read, a field that is not public carries checks, or
a value does not resolve. A failure has a code for programs and a message
for people; a validation error adds the path of field names that leads to
the place.
-/

namespace FieldChecks

/-- The classes of failures. -/
inductive FailureCode where
  /-- A check found nothing where something is required. -/
  | missingValue
  /-- A check rejected a value. -/
  | checkFailed
  /-- A check list names an unknown check, or is malformed. -/
  | invalidChecker
  /-- A field that is not public carries checks. -/
  | privateField
  /-- A value does not resolve. -/
  | derefLimit
  deriving Repr, DecidableEq

namespace FailureCode

/-- The word for a code. -/
def text : FailureCode → String
  | .missingValue => "MISSING_VALUE"
  | .checkFailed => "CHECK_FAILED"
  | .invalidChecker => "INVALID_CHECKER"
  | .privateField => "PRIVATE_FIELD"
  | .derefLimit => "DEREF_LIMIT"

/-- All codes. -/
def all : List FailureCode :=
  [.missingValue, .checkFailed, .invalidChecker, .privateField, .derefLimit]

/-- The code of a word. -/
def ofText? (word : String) : Option FailureCode :=
  all.find? (·.text == word)

end FailureCode

/-- Why a validation stops. -/
inductive Failure where
  /-- A check rejects the value. -/
  | checkFailed (check : String) (cause : CheckError)
  /-- A segment of a check list is not the name of a checker and calls no maker. -/
  | unknownChecker (segment : String)
  /-- The maker that a segment calls rejects the argument. -/
  | makerRejected (segment : String) (cause : CheckError)
  /-- A field that is not public carries checks. -/
  | privateField
  /-- A value lies behind more layers than are followed. -/
  | derefLimit (limit : Nat)
  deriving Repr, DecidableEq

namespace Failure

/-- The class of a failure. -/
def code : Failure → FailureCode
  | .checkFailed _ .missing => .missingValue
  | .checkFailed _ _ => .checkFailed
  | .unknownChecker _ | .makerRejected _ _ => .invalidChecker
  | .privateField => .privateField
  | .derefLimit _ => .derefLimit

/-- The wording of a failure. -/
def message : Failure → String
  | .checkFailed check cause => check ++ " check failed: " ++ cause.message
  | .unknownChecker segment => "invalid checker: " ++ segment
  | .makerRejected segment cause => "invalid checker: " ++ segment ++ ": " ++ cause.message
  | .privateField => "private field, will not validate"
  | .derefLimit limit => "reference chain exceeds " ++ limit.repr ++ " levels"

/-- The error that a check or a maker gave. -/
def cause? : Failure → Option CheckError
  | .checkFailed _ cause | .makerRejected _ cause => some cause
  | .unknownChecker _ | .privateField | .derefLimit _ => none

/-- The name of the check that ran. -/
def check? : Failure → Option String
  | .checkFailed check _ => some check
  | _ => none

/-- The messages of a failure and of what lies behind it, outermost first. -/
def sources (failure : Failure) : List String :=
  failure.message :: (failure.cause?.map CheckError.message).toList

end Failure

/-- A failure at a place, given by the names of the fields that lead to it from the outermost
record down. -/
structure ValidationError where
  scope : List String
  failure : Failure
  deriving Repr, DecidableEq

namespace ValidationError

/-- The failure of a value that is not inside a record. -/
def atRoot (failure : Failure) : ValidationError := ⟨[], failure⟩

/-- The error as seen from a record that holds the place in a field. -/
def within (name : String) (error : ValidationError) : ValidationError :=
  { error with scope := name :: error.scope }

/-- The field names of the scope, joined by dots. -/
def path (error : ValidationError) : String :=
  ".".intercalate error.scope

/-- The wording of an error. -/
def message (error : ValidationError) : String :=
  (if error.scope.isEmpty then "" else error.path ++ ": ") ++ error.failure.message

end ValidationError

end FieldChecks
