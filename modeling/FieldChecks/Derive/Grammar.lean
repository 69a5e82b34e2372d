import FieldChecks.Derive.Item

/-!
# The grammar of options

How tokens are taken apart into the arguments of an attribute, and which
texts write a path, is up to the grammar of the language, so it is a
parameter of everything that reads options (`Grammar`).

One such grammar is given (`Grammar.common`). It knows literals, paths, a
word with an operator in front, and lists, and refuses all other
expressions. What stands in angle brackets in a path is not looked at.
-/

namespace FieldChecks.Derive

/-- The value of an argument. -/
inductive Operand where
  | string (content : String)
  | bool (b : Bool)
  | path (tokens : List Token)
  /-- Any other literal or expression, by the word for its type. -/
  | other (type : String)
  deriving Repr, DecidableEq

/-- What an argument says behind its path. -/
inductive ArgumentBody where
  | nothing
  | value (operand : Operand)
  /-- More arguments, which do not matter. -/
  | list
  deriving Repr, DecidableEq

/-- An argument of an attribute. -/
inductive Argument where
  /-- A literal, which does not matter. -/
  | literal
  | named (path : NamePath) (body : ArgumentBody)
  deriving Repr, DecidableEq

/-- A grammar of options. -/
structure Grammar where
  /-- The arguments that tokens write, or the wording of what is wrong. -/
  arguments : List Token → Except String (List Argument)
  /-- The tokens of the path that a text writes. -/
  path? : String → Option (List Token)

namespace Grammar

/-! ## Paths -/

/-- The keywords that are segments of a path and take no arguments. -/
def plainSegments : List String :=
  ["crate", "self", "super", "try"]

/-- The words that are no identifiers unless they are raw. -/
def keywords : List String :=
  ["_", "abstract", "as", "async", "await", "become", "box", "break", "const", "continue", "crate",
    "do", "dyn", "else", "enum", "extern", "false", "final", "fn", "for", "if", "impl", "in", "let",
    "loop", "macro", "match", "mod", "move", "mut", "override", "priv", "pub", "ref", "return",
    "Self", "self", "static", "struct", "super", "trait", "true", "try", "type", "typeof", "unsafe",
    "unsized", "use", "virtual", "where", "while", "yield"]

/-- How far a path has been read. -/
inductive PathState where
  /-- A segment has to follow. -/
  | segment
  /-- Behind a segment that takes no arguments. -/
  | plain
  /-- Behind a segment that may take arguments. -/
  | name
  /-- Behind the double colon that follows such a segment. -/
  | colons
  /-- In angle brackets, and in so many more that have been opened inside of them. -/
  | angles (depth : Nat)
  /-- Behind angle brackets. -/
  | closed

namespace PathState

/-- Whether a path may end. -/
def isEnd : PathState → Bool
  | .plain | .name | .closed => true
  | _ => false

/-- A segment that begins. -/
def begin? : Token → Option PathState
  | .word word =>
    if plainSegments.contains word then some .plain
    else if word == "Self" || isIdent word && !keywords.contains word then some .name
    else none
  | _ => none

/-- The next token of a path. In an expression, arguments stand behind a double colon. -/
def next? (inExpression : Bool) : PathState → Token → Option PathState
  | .segment, token => begin? token
  | .colons, .sign "<" => some (.angles 0)
  | .colons, token => begin? token
  | .name, .sign "<" => if inExpression then none else some (.angles 0)
  | .name, .sign "::" => some .colons
  | .plain, .sign "::" | .closed, .sign "::" => some .segment
  | .angles depth, .sign "<" => some (.angles (depth + 1))
  | .angles 0, .sign ">" => some .closed
  | .angles (depth + 1), .sign ">" => some (.angles depth)
  | .angles depth, _ => some (.angles depth)
  | _, _ => none

end PathState

/-- Whether tokens are a path. -/
def isPath (inExpression : Bool) (tokens : List Token) : Bool :=
  let segments := match tokens with
    | .sign "::" :: rest => rest
    | _ => tokens
  (segments.foldlM (PathState.next? inExpression) .segment).any PathState.isEnd

/-! ## Values -/

/-- Whether a number is one with a point, an exponent, or the type of such numbers behind it. -/
def isFloat : List Char → Bool
  | '0' :: 'x' :: _ | '0' :: 'o' :: _ | '0' :: 'b' :: _ => false
  | cs => match cs.dropWhile fun c => isAsciiDigit c || c == '_' with
    | '.' :: _ | 'e' :: _ | 'E' :: _ => true
    | type => type == "f32".toList || type == "f64".toList

/-- The word for the type of a literal that is a word. -/
def wordType (word : String) : String :=
  match word.toList with
  | 'b' :: '\'' :: _ => "byte"
  | 'b' :: _ => "byte string"
  | 'c' :: _ => "unknown"
  | '\'' :: _ => "char"
  | cs => if isFloat cs then "float" else "int"

/-- The operators in front of a value. -/
def unaryOperators : List String :=
  ["-", "!", "*"]

/-- The value that tokens write. A number with a sign is a literal only if nothing follows. -/
def readOperand (isLast : Bool) (tokens : List Token) : Except String Operand :=
  match tokens with
  | [] => .error (if isLast then Next.nothing.wanted "an expression" else "expected an expression")
  | [.string content] => .ok (.string content)
  | [.word "true"] => .ok (.bool true)
  | [.word "false"] => .ok (.bool false)
  | _ =>
    if isPath true tokens then .ok (.path tokens)
    else match afterLiteral? tokens, tokens with
      | some [], [.word word] => .ok (.other (wordType word))
      | some [], [_, .word word] => .ok (.other (if isLast then wordType word else "unary"))
      | some _, _ => .error "expected \x60,\x60"
      | none, [.sign sign, .word _] =>
        if unaryOperators.contains sign then .ok (.other "unary")
        else .error "expected an expression"
      | none, _ => .error "expected an expression"

/-! ## Arguments -/

/-- How many brackets are open behind a token. -/
def depthBehind (depth : Nat) (token : Token) : Nat :=
  if (Delimiter.all.map Delimiter.opening).contains token then depth + 1
  else if (Delimiter.all.map Delimiter.closing).contains token then depth - 1
  else depth

/-- The pieces of tokens between the commas that stand in no brackets; `piece` holds, in reverse,
what has been read of the current one. -/
def piecesFrom : (depth : Nat) → (piece tokens : List Token) → List (List Token)
  | _, piece, [] => [piece.reverse]
  | depth, piece, token :: rest =>
    if depth == 0 && token == .sign "," then piece.reverse :: piecesFrom 0 [] rest
    else piecesFrom (depthBehind depth token) (token :: piece) rest

/-- The argument that a piece writes behind a path. -/
def readNamed (isLast : Bool) (piece : List Token) : Except String Argument :=
  match readNamePath piece with
  | .error (.noStart _) => .error "expected identifier or literal"
  | .error fault => .error fault.message
  | .ok (path, rest) => match AttributeBody.ofTokens? rest with
    | none => .error "expected \x60,\x60"
    | some .nothing => .ok (.named path .nothing)
    | some .value => (readOperand isLast rest.tail).map fun operand => .named path (.value operand)
    | some (.arguments _ _) => .ok (.named path .list)

/-- The argument that a piece writes. -/
def readArgument (isLast : Bool) (piece : List Token) : Except String Argument :=
  match piece with
  | [.word "true"] | [.word "false"] => .ok .literal
  | _ => match afterLiteral? piece with
    | some [] => .ok .literal
    | some _ => .error "expected \x60,\x60"
    | none => readNamed isLast piece

/-- The arguments that pieces write. There may be a comma behind the last one. -/
def readPieces : List (List Token) → Except String (List Argument)
  | [] | [[]] => .ok []
  | piece :: pieces => do
    return (← readArgument pieces.isEmpty piece) :: (← readPieces pieces)

/-- **The grammar of common options.** -/
def common : Grammar where
  arguments tokens := readPieces (piecesFrom 0 [] tokens)
  path? source :=
    let found := tokens source
    if isPath false found then some found else none

end Grammar

end FieldChecks.Derive
