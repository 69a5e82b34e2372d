import FieldChecks.Pattern.CaseFold
import FieldChecks.Pattern.Property
import FieldChecks.Pattern.Reader.Basic
import FieldChecks.Pattern.Regex
import FieldChecks.Text.Split

/-!
# Primitive parts of patterns

The smallest parts of a pattern: characters, by themselves or behind a
backslash, classes with a name such as `\d` or `\pL`, the dot, and
conditions such as `\b`.
-/

namespace FieldChecks.Pattern

namespace Reader

/-- A set and the case variants that the flags add to it. -/
def folded (set : RangeTable) : Reader RangeTable := do
  let flags := (← get).flags
  return if !flags.ignoreCase then set
    else if flags.unicode then set.withVariants
    else set.withAsciiVariants

/-- The complement of a set, which may not be asked for outside Unicode. -/
def complement (set : RangeTable) (span : Span) : Reader RangeTable := do
  unless (← get).flags.unicode do
    complainLate .invalidUtf8 span
  return set.complement

/-- A set or, if `negated`, its complement. -/
def negatedIf (negated : Bool) (set : RangeTable) (span : Span) : Reader RangeTable :=
  if negated then complement set span else return set

/-- A part of a pattern that stands for one character or a condition. -/
inductive Primitive where
  /-- A character; `byte` if it was written as a byte of two hexadecimal digits. -/
  | literal (span : Span) (c : Char) (byte : Bool)
  | condition (span : Span) (condition : Condition)
  | set (span : Span) (set : RangeTable)

/-- Where a primitive stands. -/
def Primitive.span : Primitive → Span
  | .literal span _ _ | .condition span _ | .set span _ => span

/-- The ASCII letters and digits and the underscore. -/
def asciiWordChars : RangeTable :=
  .unions [.between '0' '9', .between 'A' 'Z', .single '_', .between 'a' 'z']

/-- The class of a letter such as `d` after a backslash. -/
def letterClass (letter : Char) (span : Span) : Reader RangeTable := do
  let unicode := (← get).flags.unicode
  let set : RangeTable := match asciiLower letter with
    | 'd' => if unicode then digits else .between '0' '9'
    | 's' => if unicode then blanks else (RangeTable.between '\t' '\r').union (.single ' ')
    | _ => if unicode then wordChars else asciiWordChars
  negatedIf (letter != asciiLower letter) set span

/-- The class of a property. -/
def propertyClass (name : PropertyName) (negated : Bool) (span : Span) : Reader RangeTable := do
  if !(← get).flags.unicode then
    complainLate .unicodeNotAllowed span
    return .empty
  match Property.ofName name with
  | .ok set => negatedIf negated (← folded set) span
  | .error .unknownProperty =>
    complainLate .propertyNotFound span
    return .empty
  | .error .unknownValue =>
    complainLate .propertyValueNotFound span
    return .empty

/-- The name between the braces of a property. -/
def propertyName (name : String) : PropertyName :=
  let cut := Text.cut? "!=" name <|> Text.cut? ":" name <|> Text.cut? "=" name
  match cut with
  | some (property, value) => .valued property value
  | none => .plain name

/-- Whether a name is cut at `!=`, which asks for the characters without the value. -/
def asksWithout (name : String) : Bool :=
  Text.occurs "!=" name

/-- A property after `\p` or `\P`, the letter being next. -/
def property (first : Place) : Reader Primitive := do
  let negated := (← peek) == some 'P'
  bumpOn
  match ← peek with
  | none => fail .escapeUnfinished (← here)
  | some '\x7b' =>
    bumpOn
    let name := String.ofList (← gatherAll (· != '\x7d'))
    if (← peek).isNone then
      fail .escapeUnfinished (← here)
    bump
    let span ← since first
    return .set span (← propertyClass (propertyName name) (negated != asksWithout name) span)
  | some '\\' => fail .propertyNameInvalid (← thisChar)
  | some c =>
    bumpOn
    let span ← since first
    return .set span (← propertyClass (.plain (String.singleton c)) negated span)

/-- The character with a code point, if it is one. -/
def charOf? (n : Nat) : Option Char :=
  if n.isValidChar then some (Char.ofNat n) else none

/-- As many hexadecimal digits as `count` says. -/
def fixedHex : (count : Nat) → Reader (List Char)
  | 0 => return []
  | count + 1 => do
    match ← peek with
    | none => fail .escapeUnfinished (← here)
    | some c =>
      unless isHexDigit c do
        fail .escapeHexInvalidDigit (← thisChar)
      bumpOn
      return c :: (← fixedHex count)

/-- A character by its code point after `\x`, `\u` or `\U`, the letter being next. -/
def codePoint (first : Place) (letter : Char) : Reader Primitive := do
  bumpOn
  match ← peek with
  | none => fail .escapeUnfinished (← here)
  | some '\x7b' =>
    let brace ← place
    let inner := (← thisChar).last
    bumpOn
    let digits ← gatherAll isHexDigit
    match ← peek with
    | none => fail .escapeUnfinished (← since brace)
    | some '\x7d' =>
      let span ← since inner
      bumpOn
      if digits.isEmpty then
        fail .escapeHexEmpty (← since brace)
      match (digitsValue? 16 digits).bind charOf? with
      | none => fail .escapeHexInvalid span
      | some c => return .literal (← since first) c false
    | some _ => fail .escapeHexInvalidDigit (← thisChar)
  | some _ =>
    let start ← place
    let digits ← fixedHex (if letter == 'x' then 2 else if letter == 'u' then 4 else 8)
    match (digitsValue? 16 digits).bind charOf? with
    | none => fail .escapeHexInvalid (← since start)
    | some c => return .literal (← since first) c (letter == 'x')

/-- Whether a character has a meaning of its own somewhere in a pattern. -/
def isMeta (c : Char) : Bool :=
  "\\.+*?()|[]\x7b\x7d^$#&-~".toList.contains c

/-- Whether a backslash in front of a character makes it stand for itself. -/
def isEscapable (c : Char) : Bool :=
  isMeta c || (c.toNat < 128 && !isAsciiLetter c && !isAsciiDigit c && c != '<' && c != '>')

/-- The name of a special word boundary after `\b`, if a name in braces comes next. -/
def boundaryName (first : Place) : Reader (Option Condition) := do
  let before ← get
  let ascii := !before.flags.unicode
  bumpOn
  let inner ← place
  let isNameChar (c : Char) : Bool := isAsciiLetter c || c == '-'
  match ← peek with
  | none => fail .wordBoundaryUnfinished (← since first)
  | some c =>
    if !isNameChar c then
      set before
      return none
    let name := String.ofList (← gatherAll isNameChar)
    unless (← peek) == some '\x7d' do
      fail .wordBoundaryUnclosed (← since before.place)
    let span ← since inner
    bump
    match name with
    | "start" => return some (.wordStart ascii)
    | "end" => return some (.wordEnd ascii)
    | "start-half" => return some (.wordStartHalf ascii)
    | "end-half" => return some (.wordEndHalf ascii)
    | _ => fail .wordBoundaryUnrecognized span

/-- What a backslash, which is next, makes of the characters behind it. -/
def escape : Reader Primitive := do
  let first ← place
  bump
  match ← peek with
  | none => fail .escapeUnfinished (← since first)
  | some c =>
    if isAsciiDigit c then
      fail .backreference ⟨first, (← thisChar).last⟩
    else if c == 'x' || c == 'u' || c == 'U' then codePoint first c
    else if c == 'p' || c == 'P' then property first
    else if "dswDSW".toList.contains c then
      bump
      let span ← since first
      return .set span (← letterClass c span)
    else
      let ascii := !(← get).flags.unicode
      bump
      let span ← since first
      let condition (condition : Condition) : Reader Primitive := return .condition span condition
      let literal (c : Char) : Reader Primitive := return .literal span c false
      if isEscapable c then literal c
      else match c with
        | 'a' => literal '\x07'
        | 'f' => literal '\x0c'
        | 't' => literal '\t'
        | 'n' => literal '\n'
        | 'r' => literal '\r'
        | 'v' => literal '\x0b'
        | 'A' => condition .textStart
        | 'z' => condition .textEnd
        | 'B' => condition (.notWordBoundary ascii)
        | '<' => condition (.wordStart ascii)
        | '>' => condition (.wordEnd ascii)
        | 'b' =>
          if (← peek) == some '\x7b' then
            match ← boundaryName first with
            | some special => return .condition (← since first) special
            | none => condition (.wordBoundary ascii)
          else condition (.wordBoundary ascii)
        | _ => fail .escapeUnrecognized span

/-- The set of one character outside a class. -/
def literalSet (span : Span) (c : Char) (byte : Bool) : Reader RangeTable := do
  if byte && !(← get).flags.unicode && 128 ≤ c.toNat then
    complainLate .invalidUtf8 span
  folded (.single c)

/-- A character as a member of a class, which holds only ASCII outside Unicode. -/
def memberChar (span : Span) (c : Char) (byte : Bool) : Reader Char := do
  if !(← get).flags.unicode && 128 ≤ c.toNat then
    complainLate (if byte then .invalidUtf8 else .unicodeNotAllowed) span
  return c

/-- The set that a dot stands for. -/
def dotSet (span : Span) : Reader RangeTable := do
  let flags := (← get).flags
  unless flags.unicode do
    complainLate .invalidUtf8 span
  let left : RangeTable :=
    if flags.dotAll then .empty
    else if flags.anyLine then (RangeTable.single '\r').union (.single '\n')
    else .single '\n'
  return left.complement

end Reader

end FieldChecks.Pattern
