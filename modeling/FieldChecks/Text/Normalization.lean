import FieldChecks.Text.CombiningClass
import FieldChecks.Text.Decomposition

/-!
# Composed normal form

Equivalent texts have one composed normal form: every character is
decomposed, marks that do not interact are put in order, and what can be
composed is composed again, from the left.
-/

namespace FieldChecks

/-- A character in front of an ordered text, moved behind the marks of lower class. -/
def insertMark (c : Char) : List Char → List Char
  | [] => [c]
  | d :: cs =>
    if 0 < combiningClass d ∧ combiningClass d < combiningClass c then d :: insertMark c cs
    else c :: d :: cs

/-- A text with its marks in order of their classes, those of one class as they were. -/
def orderMarks (cs : List Char) : List Char :=
  cs.foldr insertMark []

/-- A text behind a character and the marks on it that are not composed with it, the last one
first. A mark is composed with the character unless one of the same or a higher class is between. -/
def composeWith (base : Char) (marks : List Char) : List Char → List Char
  | [] => base :: marks.reverse
  | c :: cs =>
    let isNext := marks.head?.all fun mark => combiningClass mark < combiningClass c
    match if isNext then compose? base c else none with
    | some composed => composeWith composed marks cs
    | none =>
      if combiningClass c = 0 then base :: marks.reverse ++ composeWith c [] cs
      else composeWith base (c :: marks) cs

/-- An ordered text with everything composed that can be. -/
def composeAll : List Char → List Char
  | [] => []
  | c :: cs => if combiningClass c = 0 then composeWith c [] cs else c :: composeAll cs

/-- The composed normal form of a text. -/
def normalize (cs : List Char) : List Char :=
  composeAll (orderMarks (cs.flatMap decompose))

end FieldChecks
