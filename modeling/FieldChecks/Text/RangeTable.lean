import FieldChecks.Text.Ascii

/-!
# Tables of code point ranges

A Unicode property is a set of characters, given as increasing ranges of
code points with gaps between them. Long tables are written as text: code
points in hexadecimal, a range as `first-last`, every second code point
of a range as `first-last/2`, blanks or line breaks between the entries.

Sets are put together from others: `insert` adds a range and keeps the
ranges apart, and all other operations come down to it and to the gaps
that `complement` takes. A complement has no surrogates, which are no
characters.
-/

namespace FieldChecks

/-- The entries of a table written as text. -/
def tableEntries (text : String) : List String :=
  ((text.splitOn "\n").flatMap (·.splitOn " ")).filter (!·.isEmpty)

/-- A set of characters, as inclusive ranges of code points in increasing order. -/
structure RangeTable where
  ranges : List (Nat × Nat)
  deriving Repr, DecidableEq

namespace RangeTable

/-- Whether a code point lies in one of the increasing ranges. -/
def holds : List (Nat × Nat) → Nat → Bool
  | [], _ => false
  | (first, last) :: rest, n => if n < first then false else n ≤ last || holds rest n

/-- Whether a character belongs to a table. -/
def contains (table : RangeTable) (c : Char) : Bool :=
  holds table.ranges c.toNat

/-! ## Sets from others -/

/-- The increasing ranges with one more, which takes in the ranges that it meets or touches. -/
def insert (first last : Nat) : List (Nat × Nat) → List (Nat × Nat)
  | [] => [(first, last)]
  | (f, l) :: rest =>
    if last + 1 < f then (first, last) :: (f, l) :: rest
    else if l + 1 < first then (f, l) :: insert first last rest
    else insert (min first f) (max last l) rest

/-- The ranges between increasing ranges, from a code point on. -/
def gaps : (start : Nat) → List (Nat × Nat) → List (Nat × Nat)
  | start, [] => if start ≤ 0x10ffff then [(start, 0x10ffff)] else []
  | start, (first, last) :: rest =>
    if start < first then (start, first - 1) :: gaps (last + 1) rest else gaps (last + 1) rest

/-- The set without characters. -/
def empty : RangeTable := ⟨[]⟩

/-- The set of ranges in any order. -/
def ofRanges (ranges : List (Nat × Nat)) : RangeTable :=
  ⟨ranges.foldr (fun range table => insert range.1 range.2 table) []⟩

/-- The set of code points in any order. -/
def ofCodePoints (codePoints : List Nat) : RangeTable :=
  ofRanges (codePoints.map fun n => (n, n))

/-- The set of the characters from one to another. -/
def between (first last : Char) : RangeTable :=
  ⟨[(first.toNat, last.toNat)]⟩

/-- The set of one character. -/
def single (c : Char) : RangeTable :=
  between c c

/-- The characters of either set. -/
def union (a b : RangeTable) : RangeTable :=
  ⟨a.ranges.foldr (fun range table => insert range.1 range.2 table) b.ranges⟩

/-- The characters of any of some sets. -/
def unions (tables : List RangeTable) : RangeTable :=
  tables.foldr union empty

/-- The characters that a set does not have. -/
def complement (a : RangeTable) : RangeTable :=
  ⟨gaps 0 (insert 0xd800 0xdfff a.ranges)⟩

/-- The characters of both sets. -/
def intersection (a b : RangeTable) : RangeTable :=
  (a.complement.union b.complement).complement

/-- The characters of the first set that the second one does not have. -/
def difference (a b : RangeTable) : RangeTable :=
  (a.complement.union b).complement

/-- The characters of one of the sets but not of both. -/
def symmetricDifference (a b : RangeTable) : RangeTable :=
  (a.difference b).union (b.difference a)

/-! ## Tables as text -/

/-- The code points that an entry `first-last`, or a single code point, stands for. -/
def readItem? (entry : String) : Option (Nat × Nat) :=
  match entry.splitOn "-" with
  | [only] => (digitsValue? 16 only.toList).map fun n => (n, n)
  | [first, last] => do
    let first ← digitsValue? 16 first.toList
    let last ← digitsValue? 16 last.toList
    return (first, last)
  | _ => none

/-- Every second code point of a range. -/
def everySecond (first last : Nat) : List (Nat × Nat) :=
  (List.range ((last - first) / 2 + 1)).map fun i => (first + 2 * i, first + 2 * i)

/-- The ranges that an entry stands for. -/
def readEntries (entry : String) : List (Nat × Nat) :=
  match entry.splitOn "/" with
  | [range] => (readItem? range).toList
  | [range, "2"] => (readItem? range).toList.flatMap fun (first, last) => everySecond first last
  | _ => []

/-- The table written as entries with blanks or line breaks between them. -/
def ofText (text : String) : RangeTable :=
  ⟨(tableEntries text).flatMap readEntries⟩

end RangeTable

end FieldChecks
