import FieldChecks.Text.Quoted

/-!
# Tokens of source text

Source text is a list of tokens. Written out, there is one blank between
two tokens, except behind an opening parenthesis or square bracket and in
front of a closing one. A string literal escapes what `quoted` does; NUL
in front of an octal digit is written so that the digit does not seem to
belong to it.
-/

namespace FieldChecks.Derive

/-- A token. -/
inductive Token where
  /-- An identifier, a keyword, a lifetime, or a literal that is no string. -/
  | word (text : String)
  /-- A punctuation mark or a bracket. -/
  | sign (text : String)
  /-- A string literal, by its content. -/
  | string (content : String)
  deriving Repr, DecidableEq

namespace Token

/-- Whether a character is a digit in base eight. -/
def isOctalDigit (c : Char) : Bool :=
  '0' ≤ c && c ≤ '7'

/-- The characters between the quotes of a string literal. -/
def escaped : List Char → List Char
  | [] => []
  | c :: cs =>
    if c == '\x00' && cs.head?.any isOctalDigit then ['\\', 'x', '0', '0'] ++ escaped cs
    else Quoted.escape '"' c ++ escaped cs

/-- A token as it is written. -/
def chars : Token → List Char
  | .word text | .sign text => text.toList
  | .string content => '"' :: (escaped content.toList ++ ['"'])

/-- Whether a token opens a group that is written without blanks inside. -/
def opensTightly (token : Token) : Bool :=
  token == .sign "(" || token == .sign "["

/-- Whether a token closes a group that is written without blanks inside. -/
def closesTightly (token : Token) : Bool :=
  token == .sign ")" || token == .sign "]"

/-- What stands between two tokens. -/
def gap (left right : Token) : List Char :=
  if left.opensTightly || right.closesTightly then [] else [' ']

/-- Tokens as they are written behind another one. -/
def charsAfter (left : Token) : List Token → List Char
  | [] => []
  | token :: tokens => gap left token ++ token.chars ++ charsAfter token tokens

/-- Tokens written out. -/
def write : List Token → String
  | [] => ""
  | token :: tokens => String.ofList (token.chars ++ charsAfter token tokens)

/-- Lists of tokens with a token between two of them. -/
def joined (separator : Token) : List (List Token) → List Token
  | [] => []
  | [tokens] => tokens
  | tokens :: rest => tokens ++ separator :: joined separator rest

/-- Lists of tokens with commas between them. -/
def commaSeparated : List (List Token) → List Token :=
  joined (.sign ",")

end Token

end FieldChecks.Derive
