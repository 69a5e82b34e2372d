import FieldChecks.Derive.Descriptor

/-!
# Generated code

The code that a descriptor stands for: an implementation of `Structured`,
which lists the fields, and one of `Checkable`, which makes a value of the
struct. Every type parameter has to be `Checkable`; lifetimes come before
the other parameters.
-/

namespace FieldChecks.Derive

namespace Code

/-- Words and signs by their texts. -/
def words (texts : List String) : List Token :=
  texts.map .word

/-- A sign. -/
def sign (text : String) : List Token :=
  [.sign text]

/-- A word. -/
def word (text : String) : List Token :=
  [.word text]

/-- Tokens in parentheses. -/
def inParentheses (tokens : List Token) : List Token :=
  sign "(" ++ tokens ++ sign ")"

/-- Tokens in square brackets. -/
def inBrackets (tokens : List Token) : List Token :=
  sign "[" ++ tokens ++ sign "]"

/-- Tokens in braces. -/
def inBraces (tokens : List Token) : List Token :=
  sign "\x7b" ++ tokens ++ sign "\x7d"

/-- Tokens in angle brackets. -/
def inAngles (tokens : List Token) : List Token :=
  sign "<" ++ tokens ++ sign ">"

/-- A name below a path. -/
def below (path : List Token) (name : String) : List Token :=
  path ++ sign "::" ++ word name

/-- A name below the path of names of the standard library. -/
def std (names : List String) : List Token :=
  names.foldl below []

/-! ## Fields -/

/-- The token of a member. -/
def memberToken (member : Member) : Token :=
  .word member.name

/-- The expression of a tag. -/
def tagExpression (tag : Tag) : List Token :=
  inParentheses (.string tag.1 :: sign "," ++ [.string tag.2])

/-- The call that gives a field its tags, if it has any. -/
def tagsCall (tags : List Tag) : List Token :=
  if tags.isEmpty then []
  else
    let list := Token.commaSeparated (tags.map tagExpression)
    sign "." ++ word "with_tags" ++ inParentheses (sign "&" ++ inBrackets list)

/-- The expression of a field. -/
def fieldExpression (library : List Token) (field : FieldDescriptor) : List Token :=
  let access := sign "&" ++ word "self" ++ sign "." ++ [memberToken field.member]
  below (below library "Field") "new" ++
    inParentheses (.string field.name :: sign "," ++ access) ++
    sign "." ++ word "with_public" ++
    inParentheses (word (if field.isPublic then "true" else "false")) ++
    tagsCall field.tags

/-- The expressions of the fields of a record, with commas between them. -/
def fieldList (record : RecordDescriptor) : List Token :=
  Token.commaSeparated (record.fields.map (fieldExpression record.library))

/-! ## Generic parameters -/

/-- Whether a parameter is a lifetime. -/
def isLifetime (parameter : Parameter) : Bool :=
  parameter.kind == .lifetime

/-- A parameter, and whether a comma follows it where it is declared. -/
def withCommas : List Parameter → List (Parameter × Bool)
  | [] => []
  | parameter :: rest => (parameter, !rest.isEmpty) :: withCommas rest

/-- Parameters in angle brackets, lifetimes first. A parameter takes the comma along that follows
it where it is declared; lifetimes without one get one if another parameter comes behind them. -/
def parameterList (display : Parameter → List Token) (parameters : List Parameter) : List Token :=
  if parameters.isEmpty then []
  else
    let all := withCommas parameters
    let one (entry : Parameter × Bool) : List Token :=
      display entry.1 ++ if entry.2 then sign "," else []
    let lifetimes := all.filter fun entry => isLifetime entry.1
    let others := all.filter fun entry => !isLifetime entry.1
    let missing := lifetimes.getLast?.any (!·.2) && !others.isEmpty
    inAngles (lifetimes.flatMap one ++ (if missing then sign "," else []) ++ others.flatMap one)

/-- Bounds with plus signs between them. -/
def boundList : List (List Token) → List Token :=
  Token.joined (.sign "+")

/-- A parameter with its bounds; a type has to be `Checkable` too. -/
def declaration (library : List Token) (parameter : Parameter) : List Token :=
  match parameter.kind with
  | .lifetime =>
    word parameter.name ++
      if parameter.bounds.isEmpty then [] else sign ":" ++ boundList parameter.bounds
  | .type =>
    word parameter.name ++ sign ":" ++ boundList (parameter.bounds ++ [below library "Checkable"])
  | .const type => word "const" ++ word parameter.name ++ sign ":" ++ type

/-- A parameter by its name alone. -/
def mention (parameter : Parameter) : List Token :=
  word parameter.name

/-- The condition of a predicate. -/
def predicateTokens (predicate : Predicate) : List Token :=
  predicate.type ++ sign ":" ++ boundList predicate.bounds

/-- The conditions on the parameters. -/
def whereClause (predicates : List Predicate) : List Token :=
  if predicates.isEmpty then []
  else word "where" ++ Token.commaSeparated (predicates.map predicateTokens)

/-! ## Implementations -/

/-- The implementation of a trait by a body. -/
def implementation (record : RecordDescriptor) (trait : String) (body : List Token) : List Token :=
  let parameters := record.generics.parameters
  sign "#" ++ inBrackets (word "automatically_derived") ++ word "impl" ++
    parameterList (declaration record.library) parameters ++
    below record.library trait ++ word "for" ++ word record.ident ++
    parameterList mention parameters ++
    whereClause record.generics.predicates ++
    inBraces body

/-- The parameter through which a method reaches its value. -/
def receiver : List Token :=
  inParentheses (sign "&" ++ word "self")

/-- A name of the library with an unnamed lifetime, without the closing angle bracket. -/
def withLifetime (library : List Token) (name : String) : List Token :=
  below library name ++ sign "<" ++ word "'_"

/-- The body of the method that lists the fields. -/
def fieldsBody (record : RecordDescriptor) : List Token :=
  std ["std", "vec"] ++ sign "!" ++ inBrackets (fieldList record)

/-- The method that lists the fields. -/
def fieldsMethod (record : RecordDescriptor) : List Token :=
  words ["fn", "fields"] ++ receiver ++ sign "->" ++
    std ["std", "vec", "Vec"] ++ sign "<" ++ withLifetime record.library "Field" ++ sign ">>" ++
    inBraces (fieldsBody record)

/-- The method that names the type. -/
def typeNameMethod (record : RecordDescriptor) : List Token :=
  words ["fn", "type_name"] ++ receiver ++ sign "->" ++ sign "&" ++ words ["'static", "str"] ++
    inBraces [.string record.ident]

/-- The method that makes a value. -/
def valueMethod (record : RecordDescriptor) : List Token :=
  words ["fn", "value"] ++ receiver ++ sign "->" ++
    withLifetime record.library "Value" ++ sign ">" ++
    inBraces (below (below record.library "Value") "Struct" ++ inParentheses (word "self"))

end Code

/-- The tokens of the generated code. -/
def RecordDescriptor.code (record : RecordDescriptor) : List Token :=
  Code.implementation record "Structured"
      (Code.fieldsMethod record ++ Code.typeNameMethod record) ++
    Code.implementation record "Checkable" (Code.valueMethod record)

end FieldChecks.Derive
