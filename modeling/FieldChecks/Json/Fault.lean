import FieldChecks.Number.FloatText
import FieldChecks.Number.Integer
import FieldChecks.Text.Quoted

/-!
# Faults of JSON texts

Reading JSON stops at the first problem. A reader knows only the
characters that it has not read yet, so a stop counts the bytes left
unread; a fault says the same as a line and a column of the whole text.
Columns count bytes from the start of a line.

A problem may be with the form of the text, or with what it says: a value
of another type than expected, or a record with too many or too few
entries.
-/

namespace FieldChecks.Json

/-- A number in a JSON text: an integer of at most 64 bits, signed or not, or a floating-point
number. -/
inductive Number where
  | integer (n : Int)
  | float (x : Binary64)
  deriving Repr, DecidableEq

/-- What stands in a text where something else is expected. -/
inductive Found where
  | null
  | bool (b : Bool)
  | number (n : Number)
  | string (s : String)
  | sequence
  | map
  deriving Repr, DecidableEq

/-- The words for what was found. -/
def Found.text : Found → String
  | .null => "null"
  | .bool b => "boolean \x60" ++ (if b then "true" else "false") ++ "\x60"
  | .number (.integer n) => "integer \x60" ++ Integer.text n ++ "\x60"
  | .number (.float x) => "floating point \x60" ++ FloatStyle.inJson.render x ++ "\x60"
  | .string s => "string " ++ quoted s
  | .sequence => "sequence"
  | .map => "map"

/-- What can be wrong with a JSON text. -/
inductive Problem where
  | endInList
  | endInObject
  | endInString
  | endInValue
  | expectedColon
  | expectedListCommaOrEnd
  | expectedObjectCommaOrEnd
  | expectedWord
  | expectedValue
  | invalidEscape
  | invalidNumber
  | numberOutOfRange
  | controlCharacter
  | keyMustBeString
  | loneSurrogate
  | unexpectedEndOfEscape
  | trailingComma
  | trailingCharacters
  /-- Something of another type than expected. -/
  | invalidType (found : Found) (expected : String)
  /-- A list of fewer entries than expected. -/
  | invalidLength (length : Nat) (expected : String)
  /-- A record with two entries for a field. -/
  | duplicateField (name : String)
  /-- A record without an entry for a field. -/
  | missingField (name : String)
  /-- A word that is none of the expected ones. -/
  | unknownVariant (word : String) (expected : List String)
  deriving Repr, DecidableEq

/-- A name as messages show it. -/
def inTicks (name : String) : String :=
  "\x60" ++ name ++ "\x60"

/-- The wording of a problem. -/
def Problem.message : Problem → String
  | .endInList => "EOF while parsing a list"
  | .endInObject => "EOF while parsing an object"
  | .endInString => "EOF while parsing a string"
  | .endInValue => "EOF while parsing a value"
  | .expectedColon => "expected \x60:\x60"
  | .expectedListCommaOrEnd => "expected \x60,\x60 or \x60]\x60"
  | .expectedObjectCommaOrEnd => "expected \x60,\x60 or \x60\x7d\x60"
  | .expectedWord => "expected ident"
  | .expectedValue => "expected value"
  | .invalidEscape => "invalid escape"
  | .invalidNumber => "invalid number"
  | .numberOutOfRange => "number out of range"
  | .controlCharacter => "control character (\\u0000-\\u001F) found while parsing a string"
  | .keyMustBeString => "key must be a string"
  | .loneSurrogate => "lone leading surrogate in hex escape"
  | .unexpectedEndOfEscape => "unexpected end of hex escape"
  | .trailingComma => "trailing comma"
  | .trailingCharacters => "trailing characters"
  | .invalidType found expected => "invalid type: " ++ found.text ++ ", expected " ++ expected
  | .invalidLength length expected =>
    "invalid length " ++ length.repr ++ ", expected " ++ expected
  | .duplicateField name => "duplicate field " ++ inTicks name
  | .missingField name => "missing field " ++ inTicks name
  | .unknownVariant word expected =>
    "unknown variant " ++ inTicks word ++ ", expected one of " ++
      ", ".intercalate (expected.map inTicks)

/-- A problem, and how many bytes of the text are left unread where it shows. -/
structure Stop where
  problem : Problem
  unread : Nat
  deriving Repr, DecidableEq

/-- How many bytes characters take. -/
def byteCount (cs : List Char) : Nat :=
  cs.foldl (fun n c => n + c.utf8Size) 0

/-- A problem that shows `bytes` bytes into what is unread, or at the end if that comes first. -/
def stopInto (bytes : Nat) (problem : Problem) (unread : List Char) : Stop :=
  ⟨problem, byteCount unread - bytes⟩

/-- A problem that shows where reading has arrived. -/
def stopHere : Problem → List Char → Stop :=
  stopInto 0

/-- A problem with the next character, which counts as read by one byte. -/
def stopAtNext : Problem → List Char → Stop :=
  stopInto 1

/-- A problem at a line and a column of a text. -/
structure Fault where
  problem : Problem
  line : Nat
  column : Nat
  deriving Repr, DecidableEq

/-- The line and column reached after some bytes of a text, from a line and column on. -/
def positionFrom (line column bytes : Nat) : List Char → Nat × Nat
  | [] => (line, column)
  | c :: cs =>
    if bytes < c.utf8Size then (line, column + bytes)
    else if c == '\n' then positionFrom (line + 1) 0 (bytes - 1) cs
    else positionFrom line (column + c.utf8Size) (bytes - c.utf8Size) cs

/-- A stop as a fault of the whole text. -/
def Stop.inText (stop : Stop) (text : List Char) : Fault :=
  let (line, column) := positionFrom 1 0 (byteCount text - stop.unread) text
  ⟨stop.problem, line, column⟩

/-- The wording of a fault. -/
def Fault.message (fault : Fault) : String :=
  fault.problem.message ++ " at line " ++ fault.line.repr ++ " column " ++ fault.column.repr

end FieldChecks.Json
