import FieldChecks.Derive.Item

/-!
# Tags of fields

The attribute `tag` holds pairs of a name and a text, with commas between
them. All pairs of a field are taken together in their order. What is
malformed ends the reading at once; a name that occurs twice is kept in
mind, and is told if nothing is malformed.
-/

namespace FieldChecks.Derive

/-- What is wrong with the tags of a field. -/
inductive TagFault where
  | duplicate (name : String)
  /-- There is no path in front of a pair. -/
  | noPath (fault : PathFault)
  /-- A path that is no name. -/
  | noName
  /-- A name without a text. -/
  | noValue
  /-- A value that is no text. -/
  | noText (found : Next)
  /-- Something behind a pair that is no comma. -/
  | noComma
  /-- The attribute on its own. -/
  | noArguments
  /-- A value in place of arguments. -/
  | valueInstead
  deriving Repr, DecidableEq

namespace TagFault

/-- Whether a fault is that a name occurs twice. -/
def isDuplicate : TagFault → Bool
  | .duplicate _ => true
  | _ => false

/-- The wording of a fault. -/
def message : TagFault → String
  | .duplicate name => "duplicate tag \x60" ++ name ++ "\x60"
  | .noPath fault => fault.message
  | .noName => "expected a tag name such as \x60validate\x60"
  | .noValue => "expected \x60=\x60"
  | .noText found => found.wanted "string literal"
  | .noComma => "expected \x60,\x60"
  | .noArguments => "expected attribute arguments in parentheses: #[tag(...)]"
  | .valueInstead => "expected parentheses: #[tag(...)]"

/-- What would mend a fault. -/
def hint? : TagFault → Option String
  | .duplicate _ => some "merge both check lists into one string"
  | _ => none

/-- The wording of a fault with what would mend it. -/
def advice (fault : TagFault) : String :=
  match fault.hint? with
  | some hint => fault.message ++ ": " ++ hint
  | none => fault.message

end TagFault

/-- A tag: its name and its text. -/
abbrev Tag := String × String

/-- The tag of a name with the text that follows it, and what follows the text. -/
def Ident.readTag (name : Ident) : List Token → Except TagFault (Tag × List Token)
  | .sign "=" :: .string text :: rest => .ok ((name.text, text), rest)
  | .sign "=" :: rest => .error (.noText (.of rest))
  | _ => .error .noValue

/-- The tag that tokens start with, and what follows it. -/
def readPair (tokens : List Token) : Except TagFault (Tag × List Token) :=
  match readNamePath tokens with
  | .error fault => .error (.noPath fault)
  | .ok (path, rest) => match path.ident? with
    | none => .error .noName
    | some name => name.readTag rest

/-- What is known on the way through the attributes: the tags that count, and the first name that
has come again. -/
structure Progress where
  tags : List Tag := []
  repeated : Option String := none

namespace Progress

/-- A tag counts if its name is new. Else its name is kept, if none is yet. -/
def take (progress : Progress) (tag : Tag) : Progress :=
  if progress.tags.any (·.1 == tag.1) then
    { progress with repeated := progress.repeated.or (some tag.1) }
  else { progress with tags := progress.tags ++ [tag] }

/-- Takes the tags in tokens, at most `most` of them. There may be a comma behind the last one. -/
def readPairs : (most : Nat) → (progress : Progress) → List Token → Except TagFault Progress
  | 0, progress, _ => .ok progress
  | most + 1, progress, tokens =>
    if tokens.isEmpty then .ok progress
    else match readPair tokens with
      | .error fault => .error fault
      | .ok (tag, rest) => match rest with
        | [] => .ok (progress.take tag)
        | token :: rest =>
          if token = .sign "," then readPairs most (progress.take tag) rest
          else .error .noComma

/-- Takes the tags in an attribute. -/
def readAttribute (progress : Progress) (entry : Attribute) : Except TagFault Progress :=
  if entry.path.isIdent "tag" then
    match entry.body with
    | .nothing => .error .noArguments
    | .value => .error .valueInstead
    | .arguments _ tokens => readPairs tokens.length progress tokens
  else .ok progress

/-- A repeated name is told in the end. -/
def finish (progress : Progress) : Except TagFault (List Tag) :=
  match progress.repeated with
  | some name => .error (.duplicate name)
  | none => .ok progress.tags

end Progress

/-- The tags of all attributes of a field. -/
def readTags (attributes : List Attribute) : Except TagFault (List Tag) :=
  attributes.foldlM Progress.readAttribute {} >>= Progress.finish

end FieldChecks.Derive
