import FieldChecks.Pattern.Fault

/-!
# Nesting

A part of a pattern that is made of others, such as a group, a
repetition, a sequence of two or more parts or a class in brackets, is
nested inside the parts around it. Patterns may not nest deeper than a
limit; the first part that does is at fault.
-/

namespace FieldChecks.Pattern

/-- A part that is made of others: where it stands, and the parts made of others inside it. -/
inductive Nesting where
  | part (span : Span) (inside : List Nesting)

namespace Nesting

/-- Where a part stands. -/
def span : Nesting → Span
  | .part span _ => span

/-- The parts inside a part. -/
def inside : Nesting → List Nesting
  | .part _ inside => inside

/-- The first of some parts, or of the parts inside them, that lies inside `levels` others. -/
def firstBelow : (levels : Nat) → List Nesting → Option Nesting
  | 0, parts => parts.head?
  | levels + 1, parts => parts.findSome? fun part => firstBelow levels part.inside

/-- How many parts may lie inside each other. -/
def limit : Nat := 250

end Nesting

end FieldChecks.Pattern
