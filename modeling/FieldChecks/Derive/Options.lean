import FieldChecks.Derive.Grammar
import FieldChecks.Derive.Similarity

/-!
# Options

The attribute `structured` holds options: on a type, the path of the
library; on a field, another name for it, and whether it is left out. All
its occurrences on a type or a field are read together, each option may
be given once, and all faults are reported. What the arguments are is up
to the grammar.
-/

namespace FieldChecks.Derive

/-- What is wrong with an option. -/
inductive OptionFault where
  | unknown (name : String) (known : List String)
  | duplicate (name : String)
  | unexpectedType (type name : String)
  | unknownValue (value name : String)
  /-- An option without a value, or with a list, that needs a value. -/
  | format (given name : String)
  /-- A literal in place of an option. -/
  | literal
  /-- An attribute with a value instead of arguments. -/
  | valueInstead
  /-- An attribute that the grammar refuses, by the wording of what is wrong. -/
  | unreadable (message : String)
  deriving Repr, DecidableEq

/-- The wording of a fault. -/
def OptionFault.message : OptionFault → String
  | .unknown name known =>
    "Unknown field: \x60" ++ name ++ "\x60" ++ match Similarity.closest? name known with
      | some meant => ". Did you mean \x60" ++ meant ++ "\x60?"
      | none =>
        ". Available values: " ++ ", ".intercalate (known.map fun name => "\x60" ++ name ++ "\x60")
  | .duplicate name => "Duplicate field \x60" ++ name ++ "\x60"
  | .unexpectedType type name => "Unexpected type \x60" ++ type ++ "\x60 at " ++ name
  | .unknownValue value name => "Unknown value: \x60" ++ value ++ "\x60 at " ++ name
  | .format given name => "Unexpected meta-item format \x60" ++ given ++ "\x60 at " ++ name
  | .literal => "Unexpected meta-item format \x60literal\x60"
  | .valueInstead => "Name-value arguments are not supported. Use #[structured(...)]"
  | .unreadable message => message

/-- The wording of several faults. -/
def OptionFault.messages : List OptionFault → String
  | [fault] => fault.message
  | faults => "Multiple errors: (" ++ ", ".intercalate (faults.map message) ++ ")"

/-- The word for the type of a value. -/
def Operand.typeName : Operand → String
  | .string _ => "string"
  | .bool _ => "bool"
  | .path _ => "path"
  | .other type => type

/-- A reader of an option: its name, and what is said behind the name. -/
abbrev OptionReader (α : Type) := String → ArgumentBody → Except OptionFault α

/-- Reads a text. -/
def readText : OptionReader String
  | _, .value (.string content) => .ok content
  | name, .value operand => .error (.unexpectedType operand.typeName name)
  | name, .nothing => .error (.format "word" name)
  | name, .list => .error (.format "list" name)

/-- Reads a switch, which is on if nothing is said. -/
def readSwitch : OptionReader Bool
  | _, .nothing => .ok true
  | _, .value (.bool b) => .ok b
  | name, .value (.string content) =>
    if content == "true" then .ok true
    else if content == "false" then .ok false
    else .error (.unknownValue content name)
  | name, .value operand => .error (.unexpectedType operand.typeName name)
  | name, .list => .error (.format "list" name)

/-- Reads a path, which may stand in a string. -/
def readPath (grammar : Grammar) : OptionReader (List Token)
  | _, .value (.path tokens) => .ok tokens
  | name, .value (.string content) => match grammar.path? content with
    | some tokens => .ok tokens
    | none => .error (.unknownValue content name)
  | name, .value operand => .error (.unexpectedType operand.typeName name)
  | name, .nothing => .error (.format "word" name)
  | name, .list => .error (.format "list" name)

/-- An option that sets a part of a record. -/
structure OptionSpec (σ : Type) where
  name : String
  set : ArgumentBody → σ → Except OptionFault σ

/-- An option whose value is read by a reader. -/
def optionSpec {σ α : Type} (name : String) (read : OptionReader α) (set : α → σ → σ) :
    OptionSpec σ where
  name := name
  set body state := (read name body).map (set · state)

/-- What has been read of the options: the record so far, the names seen, and the faults. -/
structure OptionState (σ : Type) where
  record : σ
  seen : List String
  faults : List OptionFault

namespace OptionState

variable {σ : Type}

/-- The state with one more fault. -/
def blame (state : OptionState σ) (fault : OptionFault) : OptionState σ :=
  { state with faults := state.faults ++ [fault] }

/-- The state behind one more argument. -/
def readArgument (specs : List (OptionSpec σ)) (state : OptionState σ) :
    Argument → OptionState σ
  | .literal => state.blame .literal
  | .named path body => match specs.find? (·.name == path.key) with
    | none => state.blame (.unknown path.key (specs.map (·.name)))
    | some spec =>
      if state.seen.contains spec.name then state.blame (.duplicate spec.name)
      else
        let state := { state with seen := spec.name :: state.seen }
        match spec.set body state.record with
        | .ok record => { state with record }
        | .error fault => state.blame fault

end OptionState

/-- The arguments of an attribute, if it is one of options. -/
def Attribute.options (grammar : Grammar) (entry : Attribute) :
    Except OptionFault (List Argument) :=
  if entry.path.key == "structured" then
    match entry.body with
    | .nothing => .ok []
    | .value => .error .valueInstead
    | .arguments _ tokens => (grammar.arguments tokens).mapError .unreadable
  else .ok []

/-- The state behind one more attribute. -/
def OptionState.readAttribute {σ : Type} (grammar : Grammar) (specs : List (OptionSpec σ))
    (state : OptionState σ) (entry : Attribute) : OptionState σ :=
  match entry.options grammar with
  | .ok arguments => arguments.foldl (readArgument specs) state
  | .error fault => state.blame fault

/-- The options of some attributes, or everything that is wrong with them. -/
def readOptions {σ : Type} (grammar : Grammar) (specs : List (OptionSpec σ)) (start : σ)
    (attributes : List Attribute) : Except (List OptionFault) σ :=
  let state := attributes.foldl (OptionState.readAttribute grammar specs) ⟨start, [], []⟩
  if state.faults.isEmpty then .ok state.record else .error state.faults

/-- The options of a type. -/
structure TypeOptions where
  /-- The path of the library. -/
  library : List Token := [.sign "::", .word "tagcheck"]
  deriving Repr, DecidableEq

/-- How the options of a type are read. -/
def typeOptions (grammar : Grammar) : List (OptionSpec TypeOptions) :=
  [optionSpec "crate" (readPath grammar) fun path _ => ⟨path⟩]

/-- The options of a field. -/
structure FieldOptions where
  rename : Option String := none
  skip : Bool := false
  deriving Repr, DecidableEq

/-- How the options of a field are read. -/
def fieldOptions : List (OptionSpec FieldOptions) := [
  optionSpec "rename" readText fun name options => { options with rename := some name },
  optionSpec "skip" readSwitch fun skip options => { options with skip }]

end FieldChecks.Derive
