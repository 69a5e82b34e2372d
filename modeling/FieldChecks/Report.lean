import FieldChecks.Failure
import FieldChecks.Json.Record

/-!
# Reports

A report sums up a validation error for another program: the path of the
field, the check that ran, if one did, the message without the path, and
the code. Reports are written and read as JSON.
-/

namespace FieldChecks

/-- A summary of a validation error. -/
structure Report where
  field : String
  check : Option String
  message : String
  code : FailureCode
  deriving Repr, DecidableEq

/-- The report of an error. -/
def ValidationError.report (error : ValidationError) : Report where
  field := error.path
  check := error.failure.check?
  message := error.failure.message
  code := error.failure.code

namespace FailureCode

/-- A code as a JSON text. -/
def toJson (code : FailureCode) : String :=
  Json.writeString code.text

/-- Reads a code. -/
def reader : Json.Reader FailureCode := do
  match ofText? (← Json.Reader.word (all.map text)) with
  | some code => return code
  | none => Json.Reader.fail .expectedValue

/-- The code that a JSON text gives. -/
def fromJson (text : String) : Except Json.Fault FailureCode :=
  Json.decode reader text

end FailureCode

namespace Report

/-- The fields of a report read so far. A check may be given as none. -/
structure Draft where
  field : Option String := none
  check : Option (Option String) := none
  message : Option String := none
  code : Option FailureCode := none

/-- What is given of a field that must not be missing. -/
def Draft.demand {α : Type} (name : String) : Option α → Except Json.Problem α
  | some a => .ok a
  | none => .error (.missingField name)

/-- The report of a draft; only the check may be missing. -/
def Draft.complete (draft : Draft) : Except Json.Problem Report := do
  let field ← demand "field" draft.field
  let message ← demand "message" draft.message
  let code ← demand "code" draft.code
  return ⟨field, draft.check.join, message, code⟩

/-- How a report is read. -/
def shape : Json.RecordShape Draft Report where
  expected := "struct ErrorReport"
  fields := [
    ⟨"field", fun draft => return { draft with field := some (← Json.Reader.string) }⟩,
    ⟨"check", fun draft =>
      return { draft with check := some (← Json.Reader.optional Json.Reader.string) }⟩,
    ⟨"message", fun draft => return { draft with message := some (← Json.Reader.string) }⟩,
    ⟨"code", fun draft => return { draft with code := some (← FailureCode.reader) }⟩]
  start := {}
  complete := Draft.complete
  tooShort := fun length => some (.invalidLength length "struct ErrorReport with 4 elements")

/-- The report that a JSON text gives. -/
def fromJson (text : String) : Except Json.Fault Report :=
  Json.decode shape.read text

/-- A report as a JSON text, without a key for the check if none ran. -/
def toJson (report : Report) : String :=
  let check := match report.check with
    | some check => ",\"check\":" ++ Json.writeString check
    | none => ""
  "\x7b\"field\":" ++ Json.writeString report.field ++ check ++
    ",\"message\":" ++ Json.writeString report.message ++
    ",\"code\":" ++ report.code.toJson ++ "\x7d"

end Report

end FieldChecks
