import FieldChecks.Pattern.Matching
import FieldChecks.Pattern.Reader
import FieldChecks.Registry.Basic
import FieldChecks.Value.Description

/-!
# Checks of patterns

The text of a value has to match a regular expression. A choice is a
pattern too: its alternatives, held between both ends of the text.
-/

namespace FieldChecks.Pattern

/-- The check that the text of a value matches an expression; the pattern is shown in messages. -/
def matchCheck (pattern : String) (regex : Regex) : Checker := fun value => do
  let text ← value.text
  if regex.matchesIn text then .ok ()
  else .error (.invalid (quoted text ++ " does not match " ++ pattern))

theorem matchCheck_eq_ok_iff {pattern : String} {regex : Regex} {value : Value} {text : String}
    (htext : value.text = .ok text) :
    matchCheck pattern regex value = .ok () ↔ regex.matchesIn text = true := by
  cases hmatch : regex.matchesIn text <;>
    simp [matchCheck, htext, hmatch, bind, Except.bind]

/-- A value without a text cannot be matched. -/
theorem matchCheck_of_no_text {pattern : String} {regex : Regex} {value : Value}
    (htext : ∀ text, value.text ≠ .ok text) :
    matchCheck pattern regex value = .error (.unsupportedKind value.kind) := by
  simp [matchCheck, Value.text_eq_error htext, bind, Except.bind]

/-- The check that a pattern asks for, if the pattern can be read. -/
def checker (pattern : String) : Except CheckError Checker :=
  match read pattern with
  | .error fault => .error (.pattern fault)
  | .ok regex => .ok (matchCheck pattern regex)

/-- The pattern of alternatives that stand between both ends of the text. -/
def anchored (choices : String) : String :=
  "^(" ++ choices ++ ")$"

/-- The check that the text of a value is one of the choices that bars separate. -/
def oneOf (choices : String) : Except CheckError Checker :=
  checker (anchored choices)

/-- The check of a pattern that is known to be readable; otherwise it fails with the fault. -/
def fixed (pattern : String) : Checker :=
  match checker pattern with
  | .ok checker => checker
  | .error cause => fun _ => .error cause

end FieldChecks.Pattern
