import FieldChecks.Text.Property

/-!
# Characters that patterns know

Patterns follow version 16 of the Unicode standard. To them the
characters that joined the standard later are unassigned, and the few
characters that have changed since are what they were.

A pattern names its sets of characters; the names are kept in lower case,
without blanks, hyphens and underscores.
-/

namespace FieldChecks.Pattern

/-- A set of characters with the names that a pattern may use for it. -/
structure NamedSet where
  names : List String
  table : RangeTable
  deriving Repr, DecidableEq

/-- The set of a name. -/
def NamedSet.find? (sets : List NamedSet) (name : String) : Option RangeTable :=
  (List.find? (fun set : NamedSet => set.names.contains name) sets).map (·.table)

/-- The characters that joined the standard after version 16. -/
def newcomers : RangeTable :=
  ⟨[
   (0x88f, 0x88f), (0xc5c, 0xc5c), (0xcdc, 0xcdc), (0x1acf, 0x1add), (0x1ae0, 0x1aeb),
   (0x20c1, 0x20c1), (0x2b96, 0x2b96), (0xa7ce, 0xa7cf), (0xa7d2, 0xa7d2), (0xa7d4, 0xa7d4),
   (0xa7f1, 0xa7f1), (0xfbc3, 0xfbd2), (0xfd90, 0xfd91), (0xfdc8, 0xfdce), (0x10940, 0x10959),
   (0x10ec5, 0x10ec7), (0x10ed0, 0x10ed8), (0x10efa, 0x10efb), (0x11b60, 0x11b67),
   (0x11db0, 0x11ddb), (0x11de0, 0x11de9), (0x16ea0, 0x16eb8), (0x16ebb, 0x16ed3),
   (0x16ff2, 0x16ff6), (0x187f8, 0x187ff), (0x18d09, 0x18d1e), (0x18d80, 0x18df2),
   (0x1ccfa, 0x1ccfc), (0x1ceba, 0x1ced0), (0x1cee0, 0x1cef0), (0x1e6c0, 0x1e6de),
   (0x1e6e0, 0x1e6f5), (0x1e6fe, 0x1e6ff), (0x1f6d8, 0x1f6d8), (0x1f777, 0x1f77a),
   (0x1f8d0, 0x1f8d8), (0x1fa54, 0x1fa57), (0x1fa8a, 0x1fa8a), (0x1fa8e, 0x1fa8e),
   (0x1fac8, 0x1fac8), (0x1facd, 0x1facd), (0x1faea, 0x1faea), (0x1faef, 0x1faef),
   (0x1fbfa, 0x1fbfa), (0x2b73a, 0x2b73f), (0x2cea2, 0x2cead), (0x323b0, 0x33479)]⟩

/-- The letter `ʕ`, which was a lowercase letter. -/
def formerLowercase : RangeTable := .single 'ʕ'

/-- The characters of a set that patterns know. -/
def known (table : RangeTable) : RangeTable :=
  table.difference newcomers

/-- The characters of some categories, as patterns know them. -/
def categoryChars (members : List Category) : RangeTable :=
  let found := Category.chars members
  if members.contains .unassigned then found.union newcomers
  else if members.contains .lowercaseLetter then (known found).union formerLowercase
  else if members.contains .otherLetter then (known found).difference formerLowercase
  else known found

/-- The decimal digits of all scripts. -/
def digits : RangeTable :=
  known decimalNumbers

/-- The characters of the property White_Space. -/
def blanks : RangeTable := .ofText "9-d 20 85 a0 1680 2000-200a 2028-2029 202f 205f 3000"

/-- The characters of the property Uppercase. -/
def uppercase : RangeTable :=
  categoryChars [.uppercaseLetter] |>.union (known otherUppercase)

/-- The characters of the property Lowercase. -/
def lowercase : RangeTable :=
  categoryChars [.lowercaseLetter] |>.union (known otherLowercase)

/-- The letters. -/
def letters : RangeTable :=
  categoryChars
    [.uppercaseLetter, .lowercaseLetter, .titlecaseLetter, .modifierLetter, .otherLetter]

/-- The characters of the property Alphabetic. -/
def alphabetic : RangeTable :=
  .unions [letters, categoryChars [.letterNumber], uppercase, lowercase, known otherAlphabetic]

/-- The two joiners. -/
def joinControls : RangeTable := .ofText "200c-200d"

/-- The characters of words: alphabetic characters, marks, decimal digits, connectors such as the
underscore, and the two joiners. -/
def wordChars : RangeTable :=
  .unions [alphabetic,
    categoryChars [.nonspacingMark, .spacingMark, .enclosingMark, .connectorPunctuation], digits,
    joinControls]

end FieldChecks.Pattern
