import FieldChecks.Text.RangeTable

/-!
# Tables of character mappings

A table maps code points to sequences of code points. It is written as
text: `first-last/step>targets` with the targets joined by `+`, where a
range of one code point is written alone and a step of one is left out.
The targets are those of the first code point; they move up with the
others.
-/

namespace FieldChecks

/-- The code points `first`, `first + step`, … up to `last`, and the targets of `first`. -/
structure MappingRule where
  first : Nat
  last : Nat
  step : Nat
  targets : List Nat
  deriving Repr, DecidableEq

/-- A mapping, as rules with increasing ranges. -/
structure MappingTable where
  rules : List MappingRule
  deriving Repr, DecidableEq

namespace MappingTable

/-- What a code point is mapped to by one of the increasing rules. -/
def search : List MappingRule → Nat → Option (List Nat)
  | [], _ => none
  | rule :: rules, n =>
    if n < rule.first then none
    else if n ≤ rule.last ∧ (n - rule.first) % rule.step = 0 then
      some (rule.targets.map (· + (n - rule.first)))
    else search rules n

/-- What a character is mapped to, if a rule is about it. -/
def get? (table : MappingTable) (c : Char) : Option (List Char) :=
  (search table.rules c.toNat).map (·.map Char.ofNat)

/-- The targets in an entry. -/
def readTargets? (text : String) : Option (List Nat) :=
  if text.isEmpty then some []
  else (text.splitOn "+").mapM fun target => digitsValue? 16 target.toList

/-- The rule that an entry stands for. -/
def readItem? (entry : String) : Option MappingRule :=
  match entry.splitOn ">" with
  | [source, targets] => do
    let targets ← readTargets? targets
    match source.splitOn "/" with
    | [range] =>
      let (first, last) ← RangeTable.readItem? range
      return ⟨first, last, 1, targets⟩
    | [range, step] =>
      let (first, last) ← RangeTable.readItem? range
      return ⟨first, last, ← digitsValue? 10 step.toList, targets⟩
    | _ => none
  | _ => none

/-- The table written as entries with blanks or line breaks between them. -/
def ofText (text : String) : MappingTable :=
  ⟨(tableEntries text).filterMap readItem?⟩

end MappingTable

end FieldChecks
