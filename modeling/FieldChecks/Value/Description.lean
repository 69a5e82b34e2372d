import FieldChecks.CheckError
import FieldChecks.Number.FloatText
import FieldChecks.Number.Integer
import FieldChecks.Value.Basic

/-!
# Values in text

A scalar has a text, which the textual checks look at; an absent value
has the empty one. A description shows the kind of any value and, of a
scalar, the value itself; records are described by their name, layers
only as empty or not.
-/

namespace FieldChecks

namespace Value

/-- The text of a scalar. -/
def text (value : Value) : Except CheckError String :=
  match value with
  | .absent => .ok ""
  | .bool b => .ok (if b then "true" else "false")
  | .int n => .ok (Integer.text n.toInt)
  | .uint n => .ok n.toNat.repr
  | .float x => .ok (FloatStyle.plain.render x)
  | .char c => .ok (String.singleton c)
  | .string s => .ok s
  | .sequence _ | .record _ _ | .reference _ | .loop => .error (.unsupportedKind value.kind)

theorem text_eq_error {value : Value} (h : ∀ text, value.text ≠ .ok text) :
    value.text = .error (.unsupportedKind value.kind) := by
  cases value with
  | sequence | record | reference | loop => rfl
  | _ => exact absurd rfl (h _)

/-- The description of a value. -/
def describe : Value → String
  | .absent => "Absent"
  | .bool b => "Bool(" ++ (if b then "true" else "false") ++ ")"
  | .int n => "Int(" ++ Integer.text n.toInt ++ ")"
  | .uint n => "Uint(" ++ n.toNat.repr ++ ")"
  | .float x => "Float(" ++ FloatStyle.described.render x ++ ")"
  | .char c => "Char(" ++ quotedChar c ++ ")"
  | .string s => "Str(" ++ quoted s ++ ")"
  | .sequence length => "Seq \x7b len: " ++ length.repr ++ " \x7d"
  | .record name _ => "Struct(" ++ quoted name ++ ")"
  | .reference (some _) | .loop => "Ref(Some(..))"
  | .reference none => "Ref(None)"

end Value

/-- The description of a field. -/
def Field.describe (field : Field Value) : String :=
  let tags := field.tags.map fun (name, text) => "(" ++ quoted name ++ ", " ++ quoted text ++ ")"
  "Field \x7b name: " ++ quoted field.name ++ ", value: " ++ field.value.describe ++ ", public: " ++
    (if field.isPublic then "true" else "false") ++ ", tags: [" ++ ", ".intercalate tags ++ "] \x7d"

end FieldChecks
