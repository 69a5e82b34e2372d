import FieldChecks.Number.Binary64
import FieldChecks.Value.Kind

/-!
# Values

What a validator sees of a program's data: scalars, texts, sequences of
which only the length shows, records with named fields, and optional
layers that still have to be followed. A layer may be empty, or lead to a
value; `loop` is a layer that leads to itself, so that following it never
ends.

`resolve` follows layers up to a limit. `isZero` tells the values that
stand for "nothing was given": every leaf of a record counts, whether its
field is public or not, and a value that does not resolve is not zero.
-/

namespace FieldChecks

/-- A field of a record over values of some type: its name, value, visibility, and tags, each a
pair of a tag's name and text. -/
structure Field (α : Type) where
  name : String
  value : α
  isPublic : Bool
  tags : List (String × String)
  deriving Repr

/-- The text of the first tag of a name. -/
def Field.tag? {α : Type} (field : Field α) (name : String) : Option String :=
  field.tags.lookup name

/-- A value as a validator sees it. -/
inductive Value where
  | absent
  | bool (b : Bool)
  | int (n : Int64)
  | uint (n : UInt64)
  | float (x : Binary64)
  | char (c : Char)
  | string (s : String)
  /-- A collection; only its length shows. -/
  | sequence (length : Nat)
  | record (name : String) (fields : List (Field Value))
  /-- An optional layer, empty or around a value. -/
  | reference (inner : Option Value)
  /-- An optional layer around itself. -/
  | loop

namespace Value

/-- The kind of a value, its layers not followed. -/
def kind : Value → Kind
  | .absent => .absent
  | .bool _ => .bool
  | .int _ => .int
  | .uint _ => .uint
  | .float _ => .float
  | .char _ => .char
  | .string _ => .string
  | .sequence _ => .sequence
  | .record _ _ => .record
  | .reference _ | .loop => .reference

/-- How many layers are followed before a value counts as unresolvable. -/
def layerLimit : Nat := 64

/-- The value behind at most `layers` layers, an empty layer being one that leads to `absent`. -/
def resolveWithin : (layers : Nat) → Value → Option Value
  | 0, .reference _ => none
  | _ + 1, .reference none => some .absent
  | layers + 1, .reference (some inner) => resolveWithin layers inner
  | _, .loop => none
  | _, value => some value

/-- The value behind all layers, if there are not too many. -/
def resolve (value : Value) : Option Value :=
  value.resolveWithin layerLimit

/-- Whether a value is a record once its layers are followed. -/
def leadsToRecord (value : Value) : Bool :=
  match value.resolve with
  | some (.record _ _) => true
  | _ => false

mutual

/-- Whether a value is zero behind at most `layers` layers. -/
def isZeroWithin (layers : Nat) : Value → Bool
  | .absent => true
  | .bool b => !b
  | .int n => n == 0
  | .uint n => n == 0
  | .float x => x.bits == 0
  | .char c => c == '\x00'
  | .string s => s.isEmpty
  | .sequence length => length == 0
  | .record _ fields => areZero fields
  | .reference none => layers != 0
  | .reference (some inner) => match layers with
    | 0 => false
    | layers + 1 => isZeroWithin layers inner
  | .loop => false

/-- Whether all of a record's fields are zero. -/
def areZero : List (Field Value) → Bool
  | [] => true
  | field :: fields => hasZero field && areZero fields

/-- Whether the value of a field is zero. -/
def hasZero : Field Value → Bool
  | ⟨_, value, _, _⟩ => isZeroWithin layerLimit value

end

/-- Whether a value is the zero value of its kind. -/
def isZero (value : Value) : Bool :=
  value.isZeroWithin layerLimit

end Value

end FieldChecks
