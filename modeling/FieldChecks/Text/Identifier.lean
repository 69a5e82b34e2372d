import FieldChecks.Text.Property

/-!
# Identifiers

The Unicode properties XID_Start and XID_Continue: an identifier starts
with a letter and goes on with letters, marks, decimal numbers and
connectors such as the underscore. A few characters are added, and those
are left out that would not be parts of an identifier in another normal
form of the text.
-/

namespace FieldChecks

namespace Identifier

/-- Characters that may start an identifier without being letters. -/
def otherStart : RangeTable :=
  .ofText "1885-1886 2118 212e"

/-- Characters that may go on an identifier without being letters, marks, decimal numbers or
connectors. -/
def otherRest : RangeTable :=
  .ofText "b7 387 1369-1371 19da 200c-200d 2118 212e 30fb ff65"

/-- Letters that no identifier contains. -/
def excluded : RangeTable :=
  .ofText "37a 2e2f fc5e-fc63 fdfa-fdfb fe70 fe72 fe74 fe76 fe78 fe7a fe7c fe7e"

/-- Letters that go on an identifier but do not start one. -/
def onlyInside : RangeTable :=
  .ofText "e33 eb3 ff9e-ff9f"

/-- Whether a category is one of characters that go on an identifier. -/
def isRestCategory : Category → Bool
  | .nonspacingMark | .spacingMark | .decimalNumber | .connectorPunctuation => true
  | category => category.isLetterLike

/-- Whether a character has the Unicode property XID_Start. -/
def isStart (c : Char) : Bool :=
  ((Category.ofChar c).isLetterLike || otherStart.contains c) && !excluded.contains c &&
    !onlyInside.contains c

/-- Whether a character has the Unicode property XID_Continue. -/
def isRest (c : Char) : Bool :=
  (isRestCategory (Category.ofChar c) || otherRest.contains c) && !excluded.contains c

end Identifier

end FieldChecks
