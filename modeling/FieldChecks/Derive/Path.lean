import FieldChecks.Derive.Source

/-!
# Paths of names

Attributes and the pairs in them go by paths: names with double colons
between them, and perhaps one in front. A name is a word that reads as an
identifier; keywords are names like all others, and a name may be raw.
-/

namespace FieldChecks.Derive

/-! ## Names -/

/-- The words that have no raw form. -/
def neverRaw : List String :=
  ["_", "crate", "self", "Self", "super"]

/-- Whether characters are those of an identifier or a keyword. -/
def isPlainIdent : List Char → Bool
  | [] => false
  | c :: cs => isIdentStart c && cs.all isIdentRest

/-- Whether a word is an identifier or a keyword, raw or not. -/
def isIdent (word : String) : Bool :=
  match word.toList with
  | 'r' :: '#' :: cs => isPlainIdent cs && !neverRaw.contains (String.ofList cs)
  | cs => isPlainIdent cs

/-- Whether a word is a lifetime. -/
def isLifetime (word : String) : Bool :=
  match word.toList with
  | '\'' :: cs => isPlainIdent cs
  | _ => false

/-- A name. -/
structure Ident where
  text : String
  valid : isIdent text = true
  deriving Repr, DecidableEq

/-- A path of names. -/
structure NamePath where
  /-- Whether a double colon stands in front. -/
  fromRoot : Bool
  first : Ident
  others : List Ident
  deriving Repr, DecidableEq

namespace NamePath

/-- The name that a path is, if it is nothing but a name. -/
def ident? (path : NamePath) : Option Ident :=
  if path.fromRoot || !path.others.isEmpty then none else some path.first

/-- Whether a path is nothing but a given name. -/
def isIdent (path : NamePath) (text : String) : Bool :=
  path.ident?.any (·.text == text)

/-- The names of a path with double colons between them, without one in front. -/
def key (path : NamePath) : String :=
  "::".intercalate ((path.first :: path.others).map Ident.text)

end NamePath

/-! ## What stands in the place of something else -/

/-- What follows the literal that tokens start with. A number may have a sign. -/
def afterLiteral? : List Token → Option (List Token)
  | .string _ :: rest => some rest
  | .word word :: rest => if isIdent word || isLifetime word then none else some rest
  | .sign "-" :: .word word :: rest =>
    if word.toList.head?.any isAsciiDigit then some rest else none
  | _ => none

/-- What stands where something else is expected. -/
inductive Next where
  | nothing
  | literal
  | other
  deriving Repr, DecidableEq

/-- What tokens start with. -/
def Next.of (tokens : List Token) : Next :=
  if tokens.isEmpty then .nothing
  else if (afterLiteral? tokens).isSome then .literal
  else .other

/-- The wording of what is expected instead. -/
def Next.wanted (found : Next) (what : String) : String :=
  (if found == .nothing then "unexpected end of input, " else "") ++ "expected " ++ what

/-! ## Reading a path -/

/-- Why tokens do not start with a path. -/
inductive PathFault where
  /-- There is no name in front. -/
  | noStart (found : Next)
  /-- There is no name behind a double colon. -/
  | noSegment (found : Next)
  deriving Repr, DecidableEq

/-- The wording of a fault. -/
def PathFault.message : PathFault → String
  | .noStart .nothing => Next.nothing.wanted "nested attribute"
  | .noStart .literal => "unexpected literal in nested attribute, expected ident"
  | .noStart .other => "unexpected token in nested attribute, expected ident"
  | .noSegment found => found.wanted "ident"

/-- The name that tokens start with, and what follows it. -/
def cutIdent? : List Token → Option (Ident × List Token)
  | .word word :: rest => if h : isIdent word = true then some (⟨word, h⟩, rest) else none
  | _ => none

/-- The further names of a path, each behind a double colon, and what follows the path. -/
def readOthers : List Token → Except PathFault (List Ident × List Token)
  | .sign "::" :: .word word :: rest =>
    if h : isIdent word = true then
      (readOthers rest).map fun (others, rest) => (⟨word, h⟩ :: others, rest)
    else .error (.noSegment (.of (.word word :: rest)))
  | .sign "::" :: rest => .error (.noSegment (.of rest))
  | rest => .ok ([], rest)

/-- A path whose first double colon has been read, and what follows it. -/
def readNamePathFrom (fromRoot : Bool) (tokens : List Token) :
    Except PathFault (NamePath × List Token) :=
  match cutIdent? tokens with
  | none => .error (.noStart (.of tokens))
  | some (first, rest) => (readOthers rest).map fun (others, rest) =>
    (⟨fromRoot, first, others⟩, rest)

/-- The path that tokens start with, and what follows it. -/
def readNamePath : List Token → Except PathFault (NamePath × List Token)
  | .sign "::" :: rest => readNamePathFrom true rest
  | tokens => readNamePathFrom false tokens

end FieldChecks.Derive
