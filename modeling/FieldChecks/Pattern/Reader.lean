import FieldChecks.Pattern.Reader.Bracketed
import FieldChecks.Pattern.Size

/-!
# Reading patterns

Repetitions, sequences, alternatives and groups, and with them whole
patterns. A pattern that is well formed may still nest too deep, ask for
what has no meaning, or be too large, and it is refused for the first of
these that it does.
-/

namespace FieldChecks.Pattern

namespace Reader

/-! ## Repetitions -/

/-- The decimal number that comes next, or the complaint about it, which is raised only once the
number is needed. -/
def decimal : Reader (Except Complaint Nat) := do
  let blanks := (← get).rest.takeWhile isBlank
  blanks.forM fun _ => bump
  let first ← place
  let digits ← gatherAll isAsciiDigit
  let span ← since first
  let _ ← gatherAll isBlank
  if digits.isEmpty then return .error ⟨.repetitionCountEmpty, span, none⟩
  return match (digitsValue? 10 digits).filter (· < Nat.pow 2 32) with
    | some n => .ok n
    | none => .error ⟨.decimalInvalid, span, none⟩

/-- The least and the greatest number of times of a counted repetition, whose opening brace is
next. -/
def counts : Reader (Nat × Option Nat) := do
  let first ← place
  let unlessEnded : Reader Unit := do
    if (← peek).isNone then
      fail .repetitionCountUnclosed (← since first)
  bumpOn
  unlessEnded
  let least ← decimal
  unlessEnded
  let range ←
    if (← peek) == some ',' then
      bumpOn
      unlessEnded
      if (← peek) == some '\x7d' then pure (← least, none)
      else
        let least ← least
        pure (least, some (← (← decimal)))
    else
      let least ← least
      pure (least, some least)
  unless (← peek) == some '\x7d' do
    fail .repetitionCountUnclosed (← since first)
  bumpOn
  if (← peek) == some '?' then
    bump
  if range.2.any (· < range.1) then
    fail .repetitionCountInvalid (← since first)
  return range

/-! ## Sequences, choices and groups -/

/-- An expression with where it stands and how its parts are nested. -/
structure Piece where
  regex : Regex
  span : Span
  nested : List Nesting

/-- A part of a sequence: an expression, or a change of flags. -/
inductive Element where
  | piece (piece : Piece)
  | flags

namespace Element

/-- The expression of an element. -/
def regex? : Element → Option Regex
  | .piece p => some p.regex
  | .flags => none

/-- The nested parts of an element. -/
def nested : Element → List Nesting
  | .piece p => p.nested
  | .flags => []

end Element

/-- The inside of a group, or the whole pattern, up to some point: where it begins, where its last
alternative begins, the elements of that one and the alternatives before it, both in reverse. -/
structure Level where
  start : Place
  begin : Place
  elements : List Element
  alternatives : List Piece

namespace Level

/-- A level in which nothing has been read. -/
def startingAt (start : Place) : Level := ⟨start, start, [], []⟩

/-- A level with one more element. -/
def push (level : Level) (element : Element) : Level :=
  { level with elements := element :: level.elements }

/-- The last alternative, which ends at a place. -/
def last (level : Level) (ending : Place) : Piece :=
  let elements := level.elements.reverse
  let span := ⟨level.begin, ending⟩
  let nested := elements.flatMap Element.nested
  ⟨.sequences (elements.filterMap Element.regex?), span,
    if elements.length ≤ 1 then nested else [.part span nested]⟩

/-- A level behind a sign, at the place `ending`, that begins another alternative. -/
def another (level : Level) (ending begin : Place) : Level :=
  { level with begin, elements := [], alternatives := level.last ending :: level.alternatives }

/-- The expression of a whole level, which ends at a place. -/
def piece (level : Level) (ending : Place) : Piece :=
  let last := level.last ending
  match level.alternatives.reverse with
  | [] => last
  | first :: rest =>
    let span := ⟨level.start, ending⟩
    let rest := rest ++ [last]
    ⟨.choices first.regex (rest.map (·.regex)), span,
      [.part span (first.nested ++ rest.flatMap (·.nested))]⟩

end Level

/-- A group whose closing parenthesis is still to come: its opening one, whether it keeps what it
matches, the level around it, and the flags to return to. -/
structure OpenGroup where
  opening : Span
  keeps : Bool
  around : Level
  flags : Flags

/-- The name of a group, up to the bracket behind it. -/
def groupName : Reader Unit := do
  let first ← place
  if (← peek).isNone then
    fail .groupNameUnclosed (← here)
  let name := (← get).rest.takeWhile (· != '>')
  for (c, i) in name.zipIdx do
    unless c == '_' || isAlphabetic c ||
        (i != 0 && (c == '.' || c == '[' || c == ']' || isNumeric c)) do
      fail .groupNameInvalid (← thisChar)
    bump
  let span ← since first
  if (← peek).isNone then
    fail .groupNameUnclosed (← here)
  bump
  if name.isEmpty then
    fail .groupNameEmpty ⟨first, first⟩
  let text := String.ofList name
  match (← get).names.lookup text with
  | some earlier => fail .groupNameDuplicate span earlier
  | none => modify fun state => { state with names := (text, span) :: state.names }

/-- What an opening parenthesis begins: a group, or flags for what follows. -/
inductive Opening where
  | group (opening : Span) (keeps : Bool) (inside : Flags)
  | flags (inside : Flags)

/-- What the opening parenthesis that comes next begins. -/
def opening : Reader Opening := do
  let opening ← thisChar
  bump
  bumpBlanks
  for ahead in ["?=", "?!", "?<=", "?<!"] do
    if ← bumpIf ahead then
      fail .lookAround (← since opening.first)
  let inner ← here
  let flags := (← get).flags
  let isNamed ← if ← bumpIf "?P<" then pure true else bumpIf "?<"
  if isNamed then
    groupName
    return .group opening true flags
  else if ← bumpIf "?" then
    if (← peek).isNone then
      fail .groupUnclosed opening
    let signs ← flagSigns ((← get).rest.length + 1) []
    let inside := withSigns flags (signs.map (·.1))
    let isGroup := (← peek) == some ':'
    bump
    if isGroup then return .group opening false inside
    else if signs.isEmpty then fail .repetitionMissing inner
    else return .flags inside
  else return .group opening true flags

/-- The element that a repetition sign applies to, and the level without it. -/
def operand (level : Level) : Reader (Piece × Level) := do
  match level.elements with
  | .piece piece :: elements => return (piece, { level with elements })
  | _ => fail .repetitionMissing (← here)

/-- A level whose last element is a piece repeated by the sign that has been read. -/
def repeated (level : Level) (piece : Piece) (least : Nat) (most : Option Nat) : Reader Level := do
  let span ← since piece.span.first
  let regex := .repetition least most piece.regex
  return level.push (.piece ⟨regex, span, [.part span piece.nested]⟩)

/-- The condition of a line's start or end, as the flags make it. -/
def lineCondition (whole line anyLine : Condition) : Reader Condition := do
  let flags := (← get).flags
  return if !flags.multiLine then whole else if flags.anyLine then anyLine else line

/-- The expression of a primitive outside a class. -/
def primitiveRegex : Reader Regex := do
  let span ← thisChar
  match ← peek with
  | some '\\' =>
    match ← escape with
    | .literal span c byte => return .one (← literalSet span c byte)
    | .set _ set => return .one set
    | .condition _ condition => return .here condition
  | some '.' =>
    bump
    return .one (← dotSet span)
  | some '^' =>
    bump
    return .here (← lineCondition .textStart .lineStart .anyLineStart)
  | some '$' =>
    bump
    return .here (← lineCondition .textEnd .lineEnd .anyLineEnd)
  | some c =>
    bump
    return .one (← literalSet span c false)
  | none => return .empty

/-- A primitive outside a class. -/
def primitivePiece : Reader Piece := do
  let first ← place
  let regex ← primitiveRegex
  return ⟨regex, ← since first, []⟩

/-- The end of a pattern, with the groups that are still open. -/
def finish (level : Level) : List OpenGroup → Reader Piece
  | [] => return level.piece (← place)
  | group :: _ => fail .groupUnclosed group.opening

/-- Changes the flags in force. -/
def setFlags (flags : Flags) : Reader Unit :=
  modify fun state => { state with flags }

/-- The rest of a pattern inside a level and the groups around it. -/
def patternRest : (fuel : Nat) → Level → (groups : List OpenGroup) → Reader Piece
  | 0, level, groups => finish level groups
  | fuel + 1, level, groups => do
    bumpBlanks
    match ← peek with
    | none => finish level groups
    | some '(' =>
      let flags := (← get).flags
      match ← opening with
      | .flags inside =>
        setFlags inside
        patternRest fuel (level.push .flags) groups
      | .group opening keeps inside =>
        setFlags inside
        patternRest fuel (.startingAt (← place)) (⟨opening, keeps, level, flags⟩ :: groups)
    | some ')' =>
      match groups with
      | [] => fail .groupUnopened (← thisChar)
      | group :: groups =>
        let inside := level.piece (← place)
        setFlags group.flags
        bump
        let span ← since group.opening.first
        let piece := ⟨.group group.keeps inside.regex, span, [.part span inside.nested]⟩
        patternRest fuel (group.around.push (.piece piece)) groups
    | some '|' =>
      let ending ← place
      bump
      patternRest fuel (level.another ending (← place)) groups
    | some '[' =>
      let cls ← bracketed
      patternRest fuel (level.push (.piece ⟨.one cls.set, cls.span, cls.nested⟩)) groups
    | some '\x7b' =>
      let (piece, level) ← operand level
      let (least, most) ← counts
      patternRest fuel (← repeated level piece least most) groups
    | some c =>
      if c == '?' || c == '*' || c == '+' then
        let (piece, level) ← operand level
        bump
        if (← peek) == some '?' then
          bump
        let least := if c == '+' then 1 else 0
        let most := if c == '?' then some 1 else none
        patternRest fuel (← repeated level piece least most) groups
      else patternRest fuel (level.push (.piece (← primitivePiece))) groups

/-- A whole pattern. -/
def wholePattern : Reader Piece := do
  let piece ← patternRest ((← get).rest.length + 1) (.startingAt (← place)) []
  match Nesting.firstBelow Nesting.limit piece.nested with
  | some part => fail (.nestedTooDeep Nesting.limit) part.span
  | none => pure ()
  match (← get).late with
  | some complaint => throw complaint
  | none => return piece

end Reader

/-- The regular expression that a pattern writes. -/
def read (pattern : String) : Except Fault Regex :=
  match Reader.wholePattern.run ⟨pattern.toList, .start, {}, [], none⟩ with
  | .error complaint => .error (.wrong ⟨pattern, complaint⟩)
  | .ok (piece, _) =>
    if piece.regex.shape.fits then .ok piece.regex else .error (.tooLarge sizeLimit)

end FieldChecks.Pattern
