import FieldChecks.Pattern.Fault
import FieldChecks.Text.Ascii
import FieldChecks.Text.Blank

/-!
# Steps of reading a pattern

A pattern is read from left to right in one pass, and the first fault met
ends it. Faults of meaning (an unknown property, a part that has no place
in a text of characters) give way to faults of form: they are kept aside
and reported only if the pattern is well formed.

Flags such as `(?i)` hold from where they stand to the end of the group
around them. Under the flag `x`, blanks and comments between the parts of
a pattern are left out.
-/

namespace FieldChecks.Pattern

/-- The flags in force. -/
structure Flags where
  ignoreCase : Bool := false
  multiLine : Bool := false
  dotAll : Bool := false
  unicode : Bool := true
  anyLine : Bool := false
  ignoreSpace : Bool := false
  deriving Repr, DecidableEq

/-- What is left of a pattern, and what has been learnt so far. -/
structure ReaderState where
  rest : List Char
  place : Place
  flags : Flags
  names : List (String × Span)
  /-- The first fault of meaning. -/
  late : Option Complaint

namespace ReaderState

/-- The state behind the next character. -/
def next (state : ReaderState) : ReaderState :=
  match state.rest with
  | [] => state
  | c :: cs => { state with rest := cs, place := state.place.after c }

/-- What follows blanks and comments, and its place. -/
def skipBlanks : (inComment : Bool) → List Char → Place → List Char × Place
  | _, [], place => ([], place)
  | true, c :: cs, place => skipBlanks (c != '\n') cs (place.after c)
  | false, c :: cs, place =>
    if isBlank c then skipBlanks false cs (place.after c)
    else if c == '#' then skipBlanks true cs (place.after c)
    else (c :: cs, place)

/-- The state behind the blanks and comments that the flag `x` leaves out. -/
def pastBlanks (state : ReaderState) : ReaderState :=
  if state.flags.ignoreSpace then
    let (rest, place) := skipBlanks false state.rest state.place
    { state with rest, place }
  else state

/-- The next character but one, or the one behind blanks and comments that the flag `x` leaves
out. -/
def second? (state : ReaderState) : Option Char :=
  let following := state.rest.tail
  if state.flags.ignoreSpace then
    let behind := match following.dropWhile isBlank with
      | '#' :: comment => comment.dropWhile isBlank
      | others => others
    behind.head? <|> following.head?
  else following.head?

end ReaderState

/-- A step of reading a pattern. -/
abbrev Reader := StateT ReaderState (Except Complaint)

namespace Reader

/-- The next character. -/
def peek : Reader (Option Char) :=
  return (← get).rest.head?

/-- The place reached. -/
def place : Reader Place :=
  return (← get).place

/-- Goes past the next character. -/
def bump : Reader Unit :=
  modify ReaderState.next

/-- Goes past the blanks and comments that the flag `x` leaves out. -/
def bumpBlanks : Reader Unit :=
  modify ReaderState.pastBlanks

/-- Goes past the next character and the blanks behind it. -/
def bumpOn : Reader Unit := do
  bump
  bumpBlanks

/-- Ends the reading with a problem. -/
def fail {α : Type} (problem : Problem) (span : Span) (earlier : Option Span := none) :
    Reader α :=
  throw ⟨problem, span, earlier⟩

/-- Keeps a fault of meaning aside, unless there is one already. -/
def complainLate (problem : Problem) (span : Span) : Reader Unit :=
  modify fun state => { state with late := state.late <|> some ⟨problem, span, none⟩ }

/-- The part from a place to the place reached. -/
def since (first : Place) : Reader Span :=
  return ⟨first, ← place⟩

/-- The part without characters at the place reached. -/
def here : Reader Span := do
  since (← place)

/-- The part that the next character makes up. -/
def thisChar : Reader Span := do
  let state ← get
  return ⟨state.place, state.next.place⟩

/-- Goes past a text if it comes next. -/
def bumpIf (text : String) : Reader Bool := do
  if text.toList.isPrefixOf (← get).rest then
    text.toList.forM fun _ => bump
    return true
  else return false

/-- The following characters with a property, each with the blanks behind it. -/
def gather (keep : Char → Bool) : (fuel : Nat) → Reader (List Char)
  | 0 => return []
  | fuel + 1 => do
    match ← peek with
    | some c =>
      if keep c then
        bumpOn
        return c :: (← gather keep fuel)
      else return []
    | none => return []

/-- The following characters with a property. -/
def gatherAll (keep : Char → Bool) : Reader (List Char) := do
  gather keep (← get).rest.length

/-! ## Flags -/

/-- One sign of a list of flags. -/
inductive FlagSign where
  | negation
  | flag (letter : Char)
  deriving Repr, DecidableEq

/-- The signs of a list of flags up to a colon or a parenthesis. -/
def flagSigns : (fuel : Nat) → (seen : List (FlagSign × Span)) → Reader (List (FlagSign × Span))
  | 0, seen => return seen.reverse
  | fuel + 1, seen => do
    let span ← thisChar
    match ← peek with
    | none => fail .flagUnfinished span
    | some c =>
      if c == ':' || c == ')' then
        match seen.head? with
        | some (.negation, span) => fail .flagDanglingNegation span
        | _ => return seen.reverse
      else
        let sign : FlagSign := if c == '-' then .negation else .flag c
        unless c == '-' || "imsUuRx".toList.contains c do
          fail .flagUnrecognized span
        match seen.find? (·.1 == sign) with
        | some (.negation, earlier) => fail .flagRepeatedNegation span earlier
        | some (.flag _, earlier) => fail .flagDuplicate span earlier
        | none =>
          bump
          flagSigns fuel ((sign, span) :: seen)

/-- Flags with one of them set or cleared. -/
def withFlag (flags : Flags) (letter : Char) (on : Bool) : Flags :=
  match letter with
  | 'i' => { flags with ignoreCase := on }
  | 'm' => { flags with multiLine := on }
  | 's' => { flags with dotAll := on }
  | 'u' => { flags with unicode := on }
  | 'R' => { flags with anyLine := on }
  | 'x' => { flags with ignoreSpace := on }
  | _ => flags

/-- Flags changed by the signs of a list: set before a negation, cleared behind it. -/
def withSigns (flags : Flags) (signs : List FlagSign) : Flags :=
  let (set, clear) := signs.span (· != .negation)
  let change (on : Bool) (flags : Flags) : FlagSign → Flags
    | .flag letter => withFlag flags letter on
    | .negation => flags
  clear.foldl (change false) (set.foldl (change true) flags)

end Reader

end FieldChecks.Pattern
