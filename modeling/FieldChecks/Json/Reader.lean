import FieldChecks.Json.NumberLiteral
import FieldChecks.Json.Skip
import FieldChecks.Json.StringLiteral

/-!
# Reading JSON by type

A reader takes a value of a type from the start of what is unread, and
stops at the first problem with its form or its type. A value of another
type is read as far as it takes to name it in the message: brackets are
not entered.
-/

namespace FieldChecks.Json

/-- A reader of a type from the characters that are unread. -/
abbrev Reader := StateT (List Char) (Except Stop)

namespace Reader

/-- Stops with a problem where reading has arrived. -/
def fail {α : Type} (problem : Problem) : Reader α :=
  fun cs => .error (stopHere problem cs)

/-- Stops with a problem with the next character. -/
def failAtNext {α : Type} (problem : Problem) : Reader α :=
  fun cs => .error (stopAtNext problem cs)

/-- The next character that is not blank, which stays unread. -/
def peek : Reader (Option Char) := fun cs =>
  let cs := cs.dropWhile isJsonBlank
  .ok (cs.head?, cs)

/-- Reads the next character. -/
def drop : Reader Unit := fun cs =>
  .ok ((), cs.tail)

/-- Reads the given letters. -/
def letters : List Char → Reader Unit
  | [] => pure ()
  | letter :: rest => do
    match ← get with
    | [] => fail .endInValue
    | c :: _ => if c == letter then drop else failAtNext .expectedWord
    letters rest

/-- Reads a string whose opening quote has been read. -/
def stringBody : Reader String := fun cs =>
  (StringLiteral.read cs).map fun (text, rest) => (String.ofList text, rest)

/-- Reads a number whose sign has been read. -/
def numberBody (negative : Bool) : Reader Number := fun cs =>
  NumberLiteral.read negative cs

/-- Names the value that stands where something else is expected. -/
def mistaken {α : Type} (expected : String) : Reader α := do
  let instead (found : Found) : Reader α := fail (.invalidType found expected)
  match (← get).head? with
  | some 'n' => drop; letters ['u', 'l', 'l']; instead .null
  | some 't' => drop; letters ['r', 'u', 'e']; instead (.bool true)
  | some 'f' => drop; letters ['a', 'l', 's', 'e']; instead (.bool false)
  | some '"' => drop; instead (.string (← stringBody))
  | some '-' => drop; instead (.number (← numberBody true))
  | some '[' => instead .sequence
  | some '\x7b' => instead .map
  | some c =>
    if isAsciiDigit c then instead (.number (← numberBody false))
    else failAtNext .expectedValue
  | none => failAtNext .expectedValue

/-- Reads a string. -/
def string : Reader String := do
  match ← peek with
  | none => failAtNext .endInValue
  | some '"' => drop; stringBody
  | some _ => mistaken "a string"

/-- Reads a truth value. -/
def bool : Reader Bool := do
  match ← peek with
  | none => failAtNext .endInValue
  | some 't' => drop; letters ['r', 'u', 'e']; return true
  | some 'f' => drop; letters ['a', 'l', 's', 'e']; return false
  | some _ => mistaken "a boolean"

/-- Reads `null`. -/
def null : Reader Unit := do
  match ← peek with
  | none => failAtNext .endInValue
  | some 'n' => drop; letters ['u', 'l', 'l']
  | some _ => mistaken "unit"

/-- Reads `null` or a value. -/
def optional {α : Type} (reader : Reader α) : Reader (Option α) := do
  match ← peek with
  | some 'n' => drop; letters ['u', 'l', 'l']; return none
  | _ => return some (← reader)

/-- Reads over any value. -/
def ignored : Reader Unit := fun cs =>
  (skip cs).map fun rest => ((), rest)

/-- Reads a colon. -/
def colon : Reader Unit := do
  match ← peek with
  | some ':' => drop
  | some _ => failAtNext .expectedColon
  | none => failAtNext .endInObject

/-! ## Entries between brackets

A bracket has been opened, and its entries are read one by one. -/

/-- Whether a list goes on with an entry, which then comes next. -/
def hasEntry (first : Bool) : Reader Bool := do
  match ← peek with
  | none => failAtNext .endInList
  | some c =>
    if c == ']' then return false
    else if first then return true
    else if c != ',' then failAtNext .expectedListCommaOrEnd
    else
      drop
      match ← peek with
      | none => failAtNext .endInValue
      | some ']' => failAtNext .trailingComma
      | some _ => return true

/-- Whether an object goes on with a key, whose opening quote then comes next. -/
def hasKey (first : Bool) : Reader Bool := do
  match ← peek with
  | none => failAtNext .endInObject
  | some c =>
    if c == '\x7d' then return false
    else if first then
      if c == '"' then return true else failAtNext .keyMustBeString
    else if c != ',' then failAtNext .expectedObjectCommaOrEnd
    else
      drop
      match ← peek with
      | none => failAtNext .endInValue
      | some '"' => return true
      | some '\x7d' => failAtNext .trailingComma
      | some _ => failAtNext .keyMustBeString

/-- Reads the next key of an object, if there is one. -/
def key? (first : Bool) : Reader (Option String) := do
  if ← hasKey first then
    drop
    return some (← stringBody)
  else return none

/-- Reads the end of a list. -/
def endList : Reader Unit := do
  match ← peek with
  | none => failAtNext .endInList
  | some ']' => drop
  | some ',' =>
    drop
    match ← peek with
    | some ']' => failAtNext .trailingComma
    | _ => failAtNext .trailingCharacters
  | some _ => failAtNext .trailingCharacters

/-- Reads the end of an object. -/
def endObject : Reader Unit := do
  match ← peek with
  | none => failAtNext .endInObject
  | some '\x7d' => drop
  | some ',' => failAtNext .trailingComma
  | some _ => failAtNext .trailingCharacters

/-- What is unread once the end of a bracket has been looked for. -/
def pastEnd (bracket : Bracket) (cs : List Char) : List Char :=
  match bracket, cs.dropWhile isJsonBlank with
  | .list, ',' :: rest => rest.dropWhile isJsonBlank
  | bracket, c :: rest => if c == bracket.closing then rest else c :: rest
  | _, [] => []

/-- Stops with a problem with the entries of a bracket as a whole, which shows behind its end. -/
def failPastEnd {α : Type} (bracket : Bracket) (problem : Problem) : Reader α := fun cs =>
  .error (stopHere problem (pastEnd bracket cs))

/-- Reads the entries of a list, at most `most`. -/
def entries {α : Type} (reader : Reader α) : (most : Nat) → (first : Bool) → Reader (List α)
  | 0, _ => return []
  | most + 1, first => do
    if ← hasEntry first then
      let entry ← reader
      return entry :: (← entries reader most false)
    else return []

/-- Reads a list. -/
def list {α : Type} (reader : Reader α) : Reader (List α) := do
  match ← peek with
  | none => failAtNext .endInValue
  | some '[' =>
    drop
    let found ← entries reader ((← get).length + 1) true
    endList
    return found
  | some _ => mistaken "a sequence"

/-- Reads one of some words: a string, or an object with the word as its only key and `null` as
its value. -/
def word (words : List String) : Reader String := do
  let known : Reader String := do
    drop
    let found ← stringBody
    if words.contains found then return found else fail (.unknownVariant found words)
  match ← peek with
  | none => failAtNext .endInValue
  | some '"' => known
  | some '\x7b' =>
    drop
    match ← peek with
    | none => failAtNext .endInObject
    | some '"' => pure ()
    | some _ => failAtNext .keyMustBeString
    let found ← known
    colon
    null
    match ← peek with
    | some '\x7d' => drop; return found
    | some _ => fail .expectedValue
    | none => fail .endInObject
  | some _ => failAtNext .expectedValue

end Reader

/-- The value that a reader takes from a text of nothing else. -/
def decode {α : Type} (reader : Reader α) (text : String) : Except Fault α :=
  let whole : Except Stop α := do
    let (a, rest) ← reader text.toList
    finish rest
    return a
  match whole with
  | .ok a => .ok a
  | .error stop => .error (stop.inText text.toList)

end FieldChecks.Json
