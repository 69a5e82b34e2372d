import FieldChecks.Json.Fault
import FieldChecks.Text.Ascii

/-!
# Well-formed JSON

Whether a text is well-formed JSON is decided one character at a time. A
state says what has to come next: a value, a key, the rest of a number or
of a text; the brackets still open, innermost first, stand beside it.
There is no limit to how deep brackets nest or how long numbers are, and
an escaped code unit has four hexadecimal digits, whether it is a
surrogate or not.

`skip` reads one value and gives what follows; `check` wants nothing but
blanks to follow.
-/

namespace FieldChecks.Json

/-- Whether a character may stand between the parts of a JSON text. -/
def isJsonBlank (c : Char) : Bool :=
  c == ' ' || c == '\n' || c == '\t' || c == '\r'

/-- An open bracket. -/
inductive Bracket where
  | list
  | object
  deriving Repr, DecidableEq

namespace Bracket

/-- The character that closes a bracket. -/
def closing : Bracket → Char
  | .list => ']'
  | .object => '\x7d'

/-- The problem of a text that ends before a bracket is closed. -/
def endProblem : Bracket → Problem
  | .list => .endInList
  | .object => .endInObject

/-- The problem of an entry that neither a comma nor the closing bracket follows. -/
def commaProblem : Bracket → Problem
  | .list => .expectedListCommaOrEnd
  | .object => .expectedObjectCommaOrEnd

end Bracket

namespace Skip

/-- A place inside a number. -/
inductive NumberPlace where
  /-- Behind the sign. -/
  | sign
  /-- Behind a leading zero. -/
  | zero
  /-- Among the digits before the point. -/
  | whole
  /-- Behind the point. -/
  | point
  /-- Among the digits behind the point. -/
  | fraction
  /-- Behind the letter of the exponent. -/
  | power
  /-- Behind the sign of the exponent. -/
  | powerSign
  /-- Among the digits of the exponent. -/
  | powerDigits
  deriving Repr, DecidableEq

/-- A place inside a text. -/
inductive StringPlace where
  | plain
  /-- Behind a backslash. -/
  | escape
  /-- Inside an escaped code unit: how many bytes are missing, and whether those read so far are
  hexadecimal digits. -/
  | codeUnit (missing : Nat) (hexadecimal : Bool)
  deriving Repr, DecidableEq

/-- What has to come next. -/
inductive Expecting where
  | value
  /-- The first entry of a bracket just opened, or its end. -/
  | entry (bracket : Bracket)
  | key
  | colon
  /-- The rest of a word. -/
  | word (rest : List Char)
  | number (place : NumberPlace)
  /-- The rest of a text, which is a key or a value. -/
  | string (place : StringPlace) (isKey : Bool)
  /-- What follows a value. -/
  | next
  deriving Repr, DecidableEq

/-- What has to come next, and the brackets open around it, innermost first. -/
structure State where
  expecting : Expecting
  brackets : List Bracket
  deriving Repr, DecidableEq

/-- What a character does to a state: reading goes on, the value has ended before the character,
or there is a problem some bytes into it. -/
inductive Step where
  | more (state : State)
  | done
  | stop (problem : Problem) (bytes : Nat)
  deriving Repr, DecidableEq

/-- The start of a value. -/
def startValue (brackets : List Bracket) (c : Char) : Step :=
  match c with
  | 'n' => .more ⟨.word ['u', 'l', 'l'], brackets⟩
  | 't' => .more ⟨.word ['r', 'u', 'e'], brackets⟩
  | 'f' => .more ⟨.word ['a', 'l', 's', 'e'], brackets⟩
  | '-' => .more ⟨.number .sign, brackets⟩
  | '0' => .more ⟨.number .zero, brackets⟩
  | '"' => .more ⟨.string .plain false, brackets⟩
  | '[' => .more ⟨.entry .list, .list :: brackets⟩
  | '\x7b' => .more ⟨.entry .object, .object :: brackets⟩
  | _ =>
    if isAsciiDigit c then .more ⟨.number .whole, brackets⟩
    else .stop .expectedValue 1

/-- The start of a key. -/
def startKey (brackets : List Bracket) (c : Char) : Step :=
  if c == '"' then .more ⟨.string .plain true, brackets⟩ else .stop .keyMustBeString 1

/-- A character behind a value. -/
def afterValue (brackets : List Bracket) (c : Char) : Step :=
  match brackets with
  | [] => .done
  | bracket :: outer =>
    if isJsonBlank c then .more ⟨.next, brackets⟩
    else if c == bracket.closing then .more ⟨.next, outer⟩
    else if c == ',' then match bracket with
      | .list => .more ⟨.value, brackets⟩
      | .object => .more ⟨.key, brackets⟩
    else .stop bracket.commaProblem 1

/-- A character inside or behind a number. -/
def inNumber (brackets : List Bracket) (place : NumberPlace) (c : Char) : Step :=
  let digit := isAsciiDigit c
  let power := c == 'e' || c == 'E'
  let into (next : NumberPlace) : Step := .more ⟨.number next, brackets⟩
  match place with
  | .sign =>
    if c == '0' then into .zero else if digit then into .whole else .stop .invalidNumber 1
  | .zero =>
    if digit then .stop .invalidNumber 1
    else if c == '.' then into .point
    else if power then into .power
    else afterValue brackets c
  | .whole =>
    if digit then into .whole
    else if c == '.' then into .point
    else if power then into .power
    else afterValue brackets c
  | .point => if digit then into .fraction else .stop .invalidNumber 1
  | .fraction =>
    if digit then into .fraction else if power then into .power else afterValue brackets c
  | .power =>
    if c == '+' || c == '-' then into .powerSign
    else if digit then into .powerDigits
    else .stop .invalidNumber 1
  | .powerSign => if digit then into .powerDigits else .stop .invalidNumber 1
  | .powerDigits => if digit then into .powerDigits else afterValue brackets c

/-- A character inside a text. -/
def inString (brackets : List Bracket) (place : StringPlace) (isKey : Bool) (c : Char) : Step :=
  let into (next : StringPlace) : Step := .more ⟨.string next isKey, brackets⟩
  match place with
  | .plain =>
    if c == '"' then .more ⟨if isKey then .colon else .next, brackets⟩
    else if c == '\\' then into .escape
    else if c < ' ' then .stop .controlCharacter 0
    else into .plain
  | .escape =>
    if c == 'u' then into (.codeUnit 4 true)
    else if ['"', '\\', '/', 'b', 'f', 'n', 'r', 't'].contains c then into .plain
    else .stop .invalidEscape 1
  | .codeUnit missing hexadecimal =>
    let hexadecimal := hexadecimal && isHexDigit c
    if c.utf8Size < missing then into (.codeUnit (missing - c.utf8Size) hexadecimal)
    else if hexadecimal then into .plain
    else .stop .invalidEscape missing

/-- What a character does to a state. -/
def step (state : State) (c : Char) : Step :=
  let brackets := state.brackets
  match state.expecting with
  | .word [] | .next => afterValue brackets c
  | .word (letter :: rest) =>
    if c == letter then .more ⟨if rest.isEmpty then .next else .word rest, brackets⟩
    else .stop .expectedWord 1
  | .number place => inNumber brackets place c
  | .string place isKey => inString brackets place isKey c
  | .value => if isJsonBlank c then .more state else startValue brackets c
  | .key => if isJsonBlank c then .more state else startKey brackets c
  | .colon =>
    if isJsonBlank c then .more state
    else if c == ':' then .more ⟨.value, brackets⟩
    else .stop .expectedColon 1
  | .entry bracket =>
    if isJsonBlank c then .more state
    else if c == bracket.closing then .more ⟨.next, brackets.tail⟩
    else match bracket with
      | .list => startValue brackets c
      | .object => startKey brackets c

/-- The problem of a text that ends behind a value. -/
def endAfterValue (brackets : List Bracket) : Option Problem :=
  brackets.head?.map Bracket.endProblem

/-- The problem of a text that ends in a state, unless the value is complete. -/
def atEnd (state : State) : Option Problem :=
  match state.expecting with
  | .value => some .endInValue
  | .entry bracket => some bracket.endProblem
  | .key | .colon => some .endInObject
  | .word [] | .next => endAfterValue state.brackets
  | .word (_ :: _) => some .endInValue
  | .string _ _ => some .endInString
  | .number place => match place with
    | .sign | .point | .power | .powerSign => some .invalidNumber
    | .zero | .whole | .fraction | .powerDigits => endAfterValue state.brackets

/-- What follows the value that is being read. -/
def run (state : State) : List Char → Except Stop (List Char)
  | [] => match atEnd state with
    | none => .ok []
    | some problem => .error (stopHere problem [])
  | c :: cs => match step state c with
    | .more next => run next cs
    | .done => .ok (c :: cs)
    | .stop problem bytes => .error (stopInto bytes problem (c :: cs))

end Skip

/-- What follows the JSON value at the start of a text. -/
def skip (cs : List Char) : Except Stop (List Char) :=
  Skip.run ⟨.value, []⟩ cs

/-- What is wrong with the characters that follow a complete value. -/
def finish (cs : List Char) : Except Stop Unit :=
  match cs.dropWhile isJsonBlank with
  | [] => .ok ()
  | rest => .error (stopAtNext .trailingCharacters rest)

/-- Whether a text is one well-formed JSON value. -/
def check (text : String) : Except Fault Unit :=
  match skip text.toList >>= finish with
  | .ok () => .ok ()
  | .error stop => .error (stop.inText text.toList)

end FieldChecks.Json
