import FieldChecks.Derive.Path

/-!
# Items

A type declaration as it is given: its name, attributes, generic
parameters and fields. An attribute is a path, alone, with a value, or
with arguments in brackets of any kind.
-/

namespace FieldChecks.Derive

/-- The brackets around arguments. -/
inductive Delimiter where
  | parenthesis
  | bracket
  | brace
  deriving Repr, DecidableEq

namespace Delimiter

/-- The opening bracket. -/
def opening : Delimiter → Token
  | .parenthesis => .sign "("
  | .bracket => .sign "["
  | .brace => .sign "\x7b"

/-- The closing bracket. -/
def closing : Delimiter → Token
  | .parenthesis => .sign ")"
  | .bracket => .sign "]"
  | .brace => .sign "\x7d"

/-- All of them. -/
def all : List Delimiter :=
  [.parenthesis, .bracket, .brace]

end Delimiter

/-- What an attribute says behind its path. -/
inductive AttributeBody where
  | nothing
  /-- A value, which does not matter. -/
  | value
  | arguments (delimiter : Delimiter) (tokens : List Token)
  deriving Repr, DecidableEq

/-- An attribute. -/
structure Attribute where
  path : NamePath
  body : AttributeBody
  deriving Repr, DecidableEq

/-- What tokens say behind a path. -/
def AttributeBody.ofTokens? : List Token → Option AttributeBody
  | [] => some .nothing
  | .sign "=" :: _ => some .value
  | token :: rest => do
    let delimiter ← Delimiter.all.find? (·.opening == token)
    if rest.getLast? == some delimiter.closing then some (.arguments delimiter rest.dropLast)
    else none

/-- The attribute that tokens write. -/
def Attribute.ofTokens? (tokens : List Token) : Option Attribute := do
  let (path, rest) ← (readNamePath tokens).toOption
  return ⟨path, ← AttributeBody.ofTokens? rest⟩

/-- Who may see a field. -/
inductive Visibility where
  | everyone
  | restricted
  | hidden
  deriving Repr, DecidableEq

/-- The visibility that source text writes. -/
def Visibility.read (source : String) : Visibility :=
  match tokens source with
  | [] => .hidden
  | [.word "pub"] => .everyone
  | _ => .restricted

/-- A field of a struct. The fields of a tuple have no name. -/
structure ItemField where
  name : Option String
  visibility : Visibility
  attributes : List Attribute
  deriving Repr, DecidableEq

/-- The kinds of generic parameters. -/
inductive ParameterKind where
  | lifetime
  | type
  /-- A constant of a type. -/
  | const (type : List Token)
  deriving Repr, DecidableEq

/-- A generic parameter. Its default does not matter. -/
structure Parameter where
  kind : ParameterKind
  name : String
  bounds : List (List Token)
  deriving Repr, DecidableEq

/-- A condition on the generic parameters. -/
structure Predicate where
  type : List Token
  bounds : List (List Token)
  deriving Repr, DecidableEq

/-- Generic parameters and the conditions on them. -/
structure Generics where
  parameters : List Parameter
  predicates : List Predicate
  deriving Repr, DecidableEq

/-- What a declaration declares. -/
inductive ItemKind where
  | struct (fields : List ItemField)
  | enum
  | union
  deriving Repr, DecidableEq

/-- A declaration. -/
structure Item where
  ident : String
  attributes : List Attribute
  generics : Generics
  kind : ItemKind
  deriving Repr, DecidableEq

end FieldChecks.Derive
