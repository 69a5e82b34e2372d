/-!
# Kinds of values

A checker sees one of ten kinds of values. The name of a kind is the word
that messages use for it.
-/

namespace FieldChecks

/-- The shape of a value. -/
inductive Kind where
  | absent
  | bool
  | int
  | uint
  | float
  | char
  | string
  | sequence
  | record
  | reference
  deriving Repr, DecidableEq

/-- The word for a kind in messages. -/
def Kind.name : Kind → String
  | .absent => "absent"
  | .bool => "bool"
  | .int => "int"
  | .uint => "uint"
  | .float => "float"
  | .char => "char"
  | .string => "string"
  | .sequence => "sequence"
  | .record => "struct"
  | .reference => "reference"

end FieldChecks
