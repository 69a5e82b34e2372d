/-!
# Faults in patterns

What may be wrong with a pattern, where, and how it is reported: the
pattern is shown with carets under the faulty part. A pattern of one line
is indented; the lines of a longer one are numbered and stand between two
rules.
-/

namespace FieldChecks.Pattern

/-- A place in a pattern. Lines and columns count from one. -/
structure Place where
  offset : Nat
  line : Nat
  column : Nat
  deriving Repr, DecidableEq

namespace Place

/-- The place at the start of a pattern. -/
def start : Place := ⟨0, 1, 1⟩

/-- The place behind a character. -/
def after (place : Place) (c : Char) : Place :=
  if c == '\n' then ⟨place.offset + 1, place.line + 1, 1⟩
  else ⟨place.offset + 1, place.line, place.column + 1⟩

end Place

/-- A part of a pattern: where it begins, and the place behind it. -/
structure Span where
  first : Place
  last : Place
  deriving Repr, DecidableEq

/-- What is wrong with a pattern. -/
inductive Problem where
  | classEscapeInvalid
  | classRangeInvalid
  | classRangeLiteral
  | classUnclosed
  | decimalInvalid
  | escapeHexEmpty
  | escapeHexInvalid
  | escapeHexInvalidDigit
  | escapeUnfinished
  | escapeUnrecognized
  | flagDanglingNegation
  | flagDuplicate
  | flagRepeatedNegation
  | flagUnfinished
  | flagUnrecognized
  | groupNameDuplicate
  | groupNameEmpty
  | groupNameInvalid
  | groupNameUnclosed
  | groupUnclosed
  | groupUnopened
  | repetitionCountInvalid
  | repetitionCountEmpty
  | repetitionCountUnclosed
  | repetitionMissing
  | wordBoundaryUnclosed
  | wordBoundaryUnrecognized
  | wordBoundaryUnfinished
  | propertyNameInvalid
  | backreference
  | lookAround
  | unicodeNotAllowed
  | invalidUtf8
  | propertyNotFound
  | propertyValueNotFound
  | nestedTooDeep (limit : Nat)
  deriving Repr, DecidableEq

/-- The wording of a problem. -/
def Problem.message : Problem → String
  | .classEscapeInvalid => "invalid escape sequence found in character class"
  | .classRangeInvalid => "invalid character class range, the start must be <= the end"
  | .classRangeLiteral => "invalid range boundary, must be a literal"
  | .classUnclosed => "unclosed character class"
  | .decimalInvalid => "decimal literal invalid"
  | .escapeHexEmpty => "hexadecimal literal empty"
  | .escapeHexInvalid => "hexadecimal literal is not a Unicode scalar value"
  | .escapeHexInvalidDigit => "invalid hexadecimal digit"
  | .escapeUnfinished => "incomplete escape sequence, reached end of pattern prematurely"
  | .escapeUnrecognized => "unrecognized escape sequence"
  | .flagDanglingNegation => "dangling flag negation operator"
  | .flagDuplicate => "duplicate flag"
  | .flagRepeatedNegation => "flag negation operator repeated"
  | .flagUnfinished => "expected flag but got end of regex"
  | .flagUnrecognized => "unrecognized flag"
  | .groupNameDuplicate => "duplicate capture group name"
  | .groupNameEmpty => "empty capture group name"
  | .groupNameInvalid => "invalid capture group character"
  | .groupNameUnclosed => "unclosed capture group name"
  | .groupUnclosed => "unclosed group"
  | .groupUnopened => "unopened group"
  | .repetitionCountInvalid =>
    "invalid repetition count range, the start must be <= the end"
  | .repetitionCountEmpty => "repetition quantifier expects a valid decimal"
  | .repetitionCountUnclosed => "unclosed counted repetition"
  | .repetitionMissing => "repetition operator missing expression"
  | .wordBoundaryUnclosed =>
    "special word boundary assertion is either unclosed or contains an invalid character"
  | .wordBoundaryUnrecognized =>
    "unrecognized special word boundary assertion, valid choices are: start, end, " ++
      "start-half or end-half"
  | .wordBoundaryUnfinished =>
    "found either the beginning of a special word boundary or a bounded repetition on a \\b " ++
      "with an opening brace, but no closing brace"
  | .propertyNameInvalid => "invalid Unicode character class"
  | .backreference => "backreferences are not supported"
  | .lookAround => "look-around, including look-ahead and look-behind, is not supported"
  | .unicodeNotAllowed => "Unicode not allowed here"
  | .invalidUtf8 => "pattern can match invalid UTF-8"
  | .propertyNotFound => "Unicode property not found"
  | .propertyValueNotFound => "Unicode property value not found"
  | .nestedTooDeep limit =>
    s!"exceed the maximum number of nested parentheses/brackets ({limit})"

/-- A problem and the part of the pattern that has it, and for a repeated thing its first
occurrence. -/
structure Complaint where
  problem : Problem
  span : Span
  earlier : Option Span
  deriving Repr, DecidableEq

/-- A pattern with the complaint about it. -/
structure Objection where
  pattern : String
  complaint : Complaint
  deriving Repr, DecidableEq

namespace Objection

/-- The lines among the pieces that line feeds separate. A carriage return before a line feed
belongs to the end of the line, and nothing behind the last line feed is no line. -/
def linesOf : List String → List String
  | [] => []
  | [last] => if last.isEmpty then [] else [last]
  | piece :: pieces =>
    (if piece.endsWith "\r" then (piece.dropEnd 1).toString else piece) :: linesOf pieces

/-- The lines of a text. -/
def lines (text : String) : List String :=
  linesOf (text.splitOn "\n")

/-- The parts to mark, in the order in which they begin. -/
def spans (objection : Objection) : List Span :=
  match objection.complaint.earlier with
  | none => [objection.complaint.span]
  | some earlier =>
    if earlier.first.offset ≤ objection.complaint.span.first.offset then
      [earlier, objection.complaint.span]
    else [objection.complaint.span, earlier]

/-- Carets under parts of one line, from a column on. A part without characters gets one caret. -/
def carets : (column : Nat) → List Span → List Char
  | _, [] => []
  | column, span :: rest =>
    let blanks := span.first.column - column
    let marks := max 1 (span.last.column - span.first.column)
    List.replicate blanks ' ' ++ List.replicate marks '^' ++
      carets (column + blanks + marks) rest

/-- The lines of the pattern, each behind its indentation or number, with carets under them. -/
def marked (objection : Objection) : List String :=
  let lines := lines objection.pattern
  let count := lines.length + if objection.pattern.endsWith "\n" then 1 else 0
  let width := if count ≤ 1 then 0 else count.repr.length
  let inLine := objection.spans.filter fun span => span.first.line == span.last.line
  lines.zipIdx.flatMap fun (line, i) =>
    let number := (i + 1).repr
    let head := if width == 0 then "    "
      else String.ofList (List.replicate (width - number.length) ' ') ++ number ++ ": "
    match inLine.filter (·.first.line == i + 1) with
    | [] => [head ++ line]
    | spans =>
      let indent := List.replicate (if width == 0 then 4 else width + 2) ' '
      [head ++ line, String.ofList (indent ++ carets 1 spans)]

/-- The remark about a part that goes over several lines. -/
def acrossLines (span : Span) : String :=
  s!"on line {span.first.line} (column {span.first.column}) through line {span.last.line} " ++
    s!"(column {span.last.column - 1})"

/-- The report of a objection. -/
def message (objection : Objection) : String :=
  let verdict := "error: " ++ objection.complaint.problem.message
  if objection.pattern.contains '\n' then
    let rule := String.ofList (List.replicate 79 '~')
    let across := objection.spans.filter fun span => span.first.line != span.last.line
    "\n".intercalate
      (["regex parse error:", rule] ++ objection.marked ++ [rule] ++ across.map acrossLines ++
        [verdict])
  else "\n".intercalate (["regex parse error:"] ++ objection.marked ++ [verdict])

end Objection

/-- Why a pattern is refused. -/
inductive Fault where
  /-- A part of the pattern is wrong. -/
  | wrong (objection : Objection)
  /-- The pattern would take more bytes than it may. -/
  | tooLarge (limit : Nat)
  deriving Repr, DecidableEq

/-- The report of a fault. -/
def Fault.message : Fault → String
  | .wrong objection => objection.message
  | .tooLarge limit => s!"Compiled regex exceeds size limit of {limit} bytes."

end FieldChecks.Pattern
