import FieldChecks.Pattern.Repertoire

/-!
# Regular expressions

A regular expression over characters: sets of characters, conditions on
the place between two characters, sequences, choices, repetitions and
groups. Which of several matches is preferred does not show, so
repetitions are neither greedy nor lazy; and what a group holds does not
show either, but groups make a pattern larger.
-/

namespace FieldChecks.Pattern

/-- A condition on a place in a text, decided by the characters on both sides of it. -/
inductive Condition where
  | textStart
  | textEnd
  | lineStart
  | lineEnd
  /-- The start of a line, where a carriage return ends lines too. -/
  | anyLineStart
  /-- The end of a line, where a carriage return ends lines too. -/
  | anyLineEnd
  | wordBoundary (ascii : Bool)
  | notWordBoundary (ascii : Bool)
  | wordStart (ascii : Bool)
  | wordEnd (ascii : Bool)
  | wordStartHalf (ascii : Bool)
  | wordEndHalf (ascii : Bool)
  deriving Repr, DecidableEq

/-- Whether a character is an ASCII letter or digit or the underscore. -/
def isAsciiWordChar (c : Char) : Bool :=
  isAsciiLetter c || isAsciiDigit c || c == '_'

/-- Whether there is a character of a word on a side of a place. -/
def isWordSide (ascii : Bool) (side : Option Char) : Bool :=
  side.any fun c => if ascii then isAsciiWordChar c else wordChars.contains c

/-- Whether a condition holds between two characters, or at an end of the text. -/
def Condition.holds (before after : Option Char) : Condition → Bool
  | .textStart => before.isNone
  | .textEnd => after.isNone
  | .lineStart => before.all (· == '\n')
  | .lineEnd => after.all (· == '\n')
  | .anyLineStart => before.all (· == '\n') || (before == some '\r' && after != some '\n')
  | .anyLineEnd => after.all (· == '\r') || (after == some '\n' && before != some '\r')
  | .wordBoundary ascii => isWordSide ascii before != isWordSide ascii after
  | .notWordBoundary ascii => isWordSide ascii before == isWordSide ascii after
  | .wordStart ascii => !isWordSide ascii before && isWordSide ascii after
  | .wordEnd ascii => isWordSide ascii before && !isWordSide ascii after
  | .wordStartHalf ascii => !isWordSide ascii before
  | .wordEndHalf ascii => !isWordSide ascii after

/-- A regular expression. -/
inductive Regex where
  /-- The empty text. -/
  | empty
  /-- One character of a set. -/
  | one (set : RangeTable)
  /-- The empty text, where a condition holds. -/
  | here (condition : Condition)
  | sequence (first second : Regex)
  | choice (first second : Regex)
  /-- At least `least` and at most `most` times the same expression. -/
  | repetition (least : Nat) (most : Option Nat) (inner : Regex)
  /-- An expression between parentheses, which may keep what it matches. -/
  | group (keeps : Bool) (inner : Regex)
  deriving Repr, DecidableEq

namespace Regex

/-- The expressions of a list, one after the other. -/
def sequences : List Regex → Regex
  | [] => .empty
  | [r] => r
  | r :: rest => .sequence r (sequences rest)

/-- A choice between `first` and the expressions of a list. -/
def choices (first : Regex) : List Regex → Regex
  | [] => first
  | r :: rest => .choice first (choices r rest)

end Regex

end FieldChecks.Pattern
