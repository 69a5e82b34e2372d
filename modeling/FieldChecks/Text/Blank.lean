/-!
# Blank characters

A check list may be padded with white space, and an argument or an
address may carry it at either end. What counts as white space is the
Unicode property White_Space; `trim` removes it from both ends of a text
and nothing from its inside.
-/

namespace FieldChecks

/-- Whether a character has the Unicode property White_Space. -/
def isBlank (c : Char) : Bool :=
  c == ' ' || ('\t' ≤ c && c ≤ '\r') || c == '\u0085' || c == '\u00a0' || c == '\u1680' ||
    ('\u2000' ≤ c && c ≤ '\u200a') || c == '\u2028' || c == '\u2029' || c == '\u202f' ||
    c == '\u205f' || c == '\u3000'

namespace Chars

/-- The characters of a text without the blank ones at its end. -/
def trimRight : List Char → List Char
  | [] => []
  | c :: cs => match trimRight cs with
    | [] => if isBlank c then [] else [c]
    | rest => c :: rest

/-- The characters of a text without the blank ones at either end. -/
def trim (cs : List Char) : List Char :=
  trimRight (cs.dropWhile isBlank)

end Chars

namespace Text

/-- A text without the blank characters at either end. -/
def trim (s : String) : String :=
  String.ofList (Chars.trim s.toList)

/-- Whether every character of a text is blank. -/
def isBlank (s : String) : Bool :=
  s.toList.all FieldChecks.isBlank

end Text

end FieldChecks
