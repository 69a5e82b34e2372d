import FieldChecks.Derive.Token
import FieldChecks.Text.Blank
import FieldChecks.Text.Identifier
import FieldChecks.Text.Split

/-!
# Reading source text

Attributes, types, bounds and paths are given as source text and are taken
apart into tokens. Blanks and comments stand between tokens; a comment
that documents something is an attribute, and starts with a number sign.
Strings may be written with escapes, or raw, between as many number signs
as it takes, and are tokens by their content; all other literals are words
as they are written.
-/

namespace FieldChecks.Derive

/-! ## Characters -/

/-- Whether a character may start an identifier. -/
def isIdentStart (c : Char) : Bool :=
  c == '_' || isAsciiLetter c || '\x7f' < c && Identifier.isStart c

/-- Whether a character may go on an identifier. -/
def isIdentRest (c : Char) : Bool :=
  c == '_' || isAsciiLetter c || isAsciiDigit c || '\x7f' < c && Identifier.isRest c

/-- Whether a character may stand between tokens: blanks, and the marks of a writing direction. -/
def isSpacing (c : Char) : Bool :=
  isBlank c || c == '\u200e' || c == '\u200f'

/-! ## Strings -/

/-- The character of an escape by code point: hexadecimal digits before a closing brace, where
underscores do not count; and what follows. -/
def bracedEscape? (digits : List Char) : List Char → Option (Char × List Char)
  | [] => none
  | '\x7d' :: cs => (digitsValue? 16 digits.reverse).map fun n => (Char.ofNat n, cs)
  | c :: cs => bracedEscape? (if c == '_' then digits else c :: digits) cs

/-- The character that a letter stands for behind a backslash. -/
def letterEscape? : Char → Option Char
  | 'n' => some '\n'
  | 'r' => some '\r'
  | 't' => some '\t'
  | '\\' => some '\\'
  | '0' => some '\x00'
  | '\'' => some '\''
  | '"' => some '"'
  | _ => none

/-- Whether a character is left out behind a backslash at the end of a line. -/
def isLineBlank (c : Char) : Bool :=
  c == ' ' || c == '\t' || c == '\n' || c == '\r'

/-- The content of a string literal whose opening quote has been read, at most `most` characters
of it. -/
def stringContent : (most : Nat) → List Char → Option (List Char)
  | 0, _ => none
  | _, [] => none
  | _, '"' :: _ => some []
  | most + 1, '\\' :: 'x' :: a :: b :: cs => do
    let n ← digitsValue? 16 [a, b]
    return Char.ofNat n :: (← stringContent most cs)
  | most + 1, '\\' :: 'u' :: '\x7b' :: cs => do
    let (c, rest) ← bracedEscape? [] cs
    return c :: (← stringContent most rest)
  | most + 1, '\\' :: '\n' :: cs => stringContent most (cs.dropWhile isLineBlank)
  | most + 1, '\\' :: e :: cs => do
    return (← letterEscape? e) :: (← stringContent most cs)
  | most + 1, c :: cs => do
    return c :: (← stringContent most cs)

/-- What stands in front of the closing quote of a literal, and what follows the quote. -/
def cutLiteral? : List Char → Option (List Char × List Char)
  | [] => none
  | '"' :: rest => some ([], rest)
  | '\\' :: c :: cs => (cutLiteral? cs).map fun (inside, rest) => ('\\' :: c :: inside, rest)
  | c :: cs => (cutLiteral? cs).map fun (inside, rest) => (c :: inside, rest)

/-- The text of a literal, and what follows it. -/
def readLiteral : List Char → Option (String × List Char)
  | '"' :: cs => do
    let (inside, rest) ← cutLiteral? cs
    let content ← stringContent (inside.length + 1) (inside ++ ['"'])
    return (String.ofList content, rest)
  | _ => none

/-- The text of a raw literal, and what follows it. -/
def readRawLiteral : List Char → Option (String × List Char)
  | 'r' :: cs =>
    let hashes := cs.takeWhile (· == '#')
    match cs.dropWhile (· == '#') with
    | '"' :: body => (Chars.cut? ('"' :: hashes) body).map fun (content, rest) =>
      (String.ofList content, rest)
    | _ => none
  | _ => none

/-- The text of a string literal of either form, and what follows it. -/
def readString (cs : List Char) : Option (String × List Char) :=
  readLiteral cs <|> readRawLiteral cs

/-! ## Other literals -/

/-- What follows a character in single quotes. -/
def behindCharacter? : List Char → Option (List Char)
  | '\'' :: '\\' :: _ :: cs => (Chars.cut? ['\''] cs).map Prod.snd
  | '\'' :: _ :: '\'' :: rest => some rest
  | _ => none

/-- What follows a character, a byte, or a string of bytes or for C. -/
def behindLiteral? : List Char → Option (List Char)
  | 'b' :: cs => behindCharacter? cs <|> (readString cs).map Prod.snd
  | 'c' :: cs => (readString cs).map Prod.snd
  | cs => behindCharacter? cs

/-- A number up to an `e` goes on behind the sign of its exponent. -/
def spanExponent (front rest : List Char) : List Char × List Char :=
  let isDecimal := front.all fun c => isAsciiDigit c || "_.eE".toList.contains c
  match rest with
  | sign :: c :: cs =>
    if isDecimal && front.getLast?.any "eE".toList.contains && "+-".toList.contains sign &&
        isAsciiDigit c then
      let (exponent, rest) := (c :: cs).span isIdentRest
      (front ++ sign :: exponent, rest)
    else (front, rest)
  | _ => (front, rest)

/-- A number, and what follows it. A point belongs to it, unless another one or a name follows. -/
def spanNumber (cs : List Char) : List Char × List Char :=
  let (whole, rest) := cs.span isIdentRest
  match rest with
  | '.' :: rest =>
    if rest.head?.any isAsciiDigit then
      let (fraction, rest) := rest.span isIdentRest
      spanExponent (whole ++ '.' :: fraction) rest
    else if rest.head?.any fun c => c == '.' || isIdentStart c then (whole, '.' :: rest)
    else (whole ++ ['.'], rest)
  | _ => spanExponent whole rest

/-! ## Tokens -/

/-- The signs of more than one character. -/
def longSigns : List String :=
  ["..=", "...", "::", "->", ".."]

/-- The long sign that a text starts with. -/
def longSign? (cs : List Char) : Option String :=
  longSigns.find? fun sign => sign.toList.isPrefixOf cs

/-- A word of the characters with a property, and what follows it. -/
def spanWord (start : List Char) (keep : Char → Bool) (cs : List Char) : Token × List Char :=
  (.word (String.ofList (start ++ cs.takeWhile keep)), cs.dropWhile keep)

/-- The next token of a text that starts with no literal but a number, and what follows it. -/
def nextPlainToken : List Char → Option (Token × List Char)
  | [] => none
  | 'r' :: '#' :: cs =>
    if cs.head?.any isIdentStart then some (spanWord ['r', '#'] isIdentRest cs)
    else some (.word "r", '#' :: cs)
  | '\'' :: cs =>
    if cs.head?.any isIdentStart then some (spanWord ['\''] isIdentRest cs)
    else some (.sign "'", cs)
  | c :: cs =>
    if isIdentStart c then some (spanWord [] isIdentRest (c :: cs))
    else if isAsciiDigit c then
      let (number, rest) := spanNumber (c :: cs)
      some (.word (String.ofList number), rest)
    else match longSign? (c :: cs) with
      | some sign => some (.sign sign, (c :: cs).drop sign.length)
      | none => some (.sign (String.singleton c), cs)

/-- The next token of a text without blanks in front, and what follows it. -/
def nextToken (cs : List Char) : Option (Token × List Char) :=
  match readString cs with
  | some (content, rest) =>
    -- a literal may go on with a suffix, which does not matter
    some (.string content, if rest.head?.any isIdentStart then rest.dropWhile isIdentRest else rest)
  | none => match behindLiteral? cs with
    | some rest => some (.word (String.ofList (cs.take (cs.length - rest.length))), rest)
    | none => nextPlainToken cs

/-- What follows a comment in stars, where `depth` more have been opened inside of it. -/
def behindComment? : (depth : Nat) → List Char → Option (List Char)
  | _, [] => none
  | 0, '*' :: '/' :: cs => some cs
  | depth + 1, '*' :: '/' :: cs => behindComment? depth cs
  | depth, '/' :: '*' :: cs => behindComment? (depth + 1) cs
  | depth, _ :: cs => behindComment? depth cs

/-- Whether a comment documents something, by what stands behind its first two characters: the
second of these again, but not twice and not at the end, or an exclamation mark. -/
def isDocumentation (second : Char) : List Char → Bool
  | '!' :: _ => true
  | c :: cs => c == second && cs.head?.all fun d => d != second && d != '/'
  | [] => false

/-- The next token of a text without blanks in front, unless a comment is next, and what follows
either. -/
def nextPiece : List Char → Option (Option Token × List Char)
  | '/' :: '/' :: cs =>
    some (if isDocumentation '/' cs then some (.sign "#") else none, cs.dropWhile (· != '\n'))
  | '/' :: '*' :: cs => (behindComment? 0 cs).map fun rest =>
    (if isDocumentation '*' cs then some (.sign "#") else none, rest)
  | cs => (nextToken cs).map fun (token, rest) => (some token, rest)

/-- The tokens of a text, from at most `most` pieces of it. -/
def tokensWithin : (most : Nat) → List Char → List Token
  | 0, _ => []
  | most + 1, cs => match nextPiece (cs.dropWhile isSpacing) with
    | none => []
    | some (token?, rest) => token?.toList ++ tokensWithin most rest

/-- The tokens of a text. -/
def tokens (source : String) : List Token :=
  tokensWithin source.length source.toList

end FieldChecks.Derive
