import FieldChecks.Derive.Options
import FieldChecks.Derive.Tags

/-!
# Descriptors

A descriptor says how a validator sees a struct: its fields in their
order, but for those left out, each with the way to reach it, the name it
goes by, whether it is public, and its tags.

The first fault counts: that a declaration is no struct before the
options of the type, those before the fields, and for each field in turn
its options before its tags. The tags of a field that is left out are not
looked at.
-/

namespace FieldChecks.Derive

/-- The way to reach a field: by name, or by position. -/
inductive Member where
  | named (ident : String)
  | position (index : Nat)
  deriving Repr, DecidableEq

/-- A field as a validator sees it. -/
structure FieldDescriptor where
  member : Member
  name : String
  isPublic : Bool
  tags : List Tag
  deriving Repr, DecidableEq

/-- The text of the first tag of a name. -/
def FieldDescriptor.tag? (field : FieldDescriptor) (name : String) : Option String :=
  field.tags.lookup name

/-- A struct as a validator sees it. -/
structure RecordDescriptor where
  ident : String
  generics : Generics
  library : List Token
  fields : List FieldDescriptor
  deriving Repr, DecidableEq

/-- Why there is no descriptor. -/
inductive DeriveFault where
  | notAStruct (found : String)
  | typeOptions (faults : List OptionFault)
  | fieldOptions (faults : List OptionFault)
  | tag (fault : TagFault)
  deriving Repr, DecidableEq

namespace DeriveFault

/-- The wording of a fault. -/
def message : DeriveFault → String
  | .notAStruct found => "Structured can only be derived for structs, found " ++ found
  | .typeOptions faults => "Failed to parse container attributes: " ++ OptionFault.messages faults
  | .fieldOptions faults => "Failed to parse field attributes: " ++ OptionFault.messages faults
  | .tag fault => "Invalid tag: " ++ fault.message

/-- The wording of a fault for the author of the declaration. -/
def advice : DeriveFault → String
  | .notAStruct found => "Structured can only be derived for structs, found " ++ found
  | .typeOptions faults => "Invalid container attributes: " ++ OptionFault.messages faults
  | .fieldOptions faults => "Invalid field attributes: " ++ OptionFault.messages faults
  | .tag fault => fault.advice

end DeriveFault

/-- The way to reach a field that stands at a position. -/
def ItemField.member (field : ItemField) (index : Nat) : Member :=
  match field.name with
  | some name => .named name
  | none => .position index

/-- The name of a member. -/
def Member.name : Member → String
  | .named ident => ident
  | .position index => index.repr

/-- The descriptor of a field that stands at a position, unless it is left out. -/
def ItemField.descriptor? (grammar : Grammar) (field : ItemField) (index : Nat) :
    Except DeriveFault (Option FieldDescriptor) :=
  match readOptions grammar fieldOptions {} field.attributes with
  | .error faults => .error (.fieldOptions faults)
  | .ok options =>
    if options.skip then .ok none
    else match readTags field.attributes with
      | .error fault => .error (.tag fault)
      | .ok tags =>
        let member := field.member index
        .ok (some ⟨member, options.rename.getD member.name, field.visibility == .everyone, tags⟩)

/-- The descriptors of fields, the first of which stands at a position. -/
def descriptorsFrom (grammar : Grammar) :
    (index : Nat) → List ItemField → Except DeriveFault (List FieldDescriptor)
  | _, [] => .ok []
  | index, field :: fields => do
    let first ← field.descriptor? grammar index
    let rest ← descriptorsFrom grammar (index + 1) fields
    return first.toList ++ rest

/-- The descriptor of a struct with the given fields. -/
def Item.structDescriptor (grammar : Grammar) (item : Item) (fields : List ItemField) :
    Except DeriveFault RecordDescriptor :=
  match readOptions grammar (typeOptions grammar) {} item.attributes with
  | .error faults => .error (.typeOptions faults)
  | .ok options => (descriptorsFrom grammar 0 fields).map fun fields =>
    ⟨item.ident, item.generics, options.library, fields⟩

/-- The descriptor of a declaration. -/
def Item.descriptor (grammar : Grammar) (item : Item) : Except DeriveFault RecordDescriptor :=
  match item.kind with
  | .enum => .error (.notAStruct "enum")
  | .union => .error (.notAStruct "union")
  | .struct fields => item.structDescriptor grammar fields

end FieldChecks.Derive
