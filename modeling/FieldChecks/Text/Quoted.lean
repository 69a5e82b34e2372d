import FieldChecks.Text.Property

/-!
# Quoted texts

Messages quote the texts they speak of. A quoted text stands between
double quotes, a quoted character between single ones; the quote itself,
the backslash, tab, line feed, carriage return and NUL are written with a
backslash, and what has no shape of its own (unprintable and ignorable
characters, and marks that extend the character before them) by its code
point.
-/

namespace FieldChecks

namespace Quoted

/-- A character written by its code point, in hexadecimal between braces. -/
def byCodePoint (c : Char) : List Char :=
  ['\\', 'u', '\x7b'] ++ hexDigits c.toNat ++ ['\x7d']

/-- A character as it is written between two of the given quotes. -/
def escape (quote c : Char) : List Char :=
  if c == '\x00' then ['\\', '0']
  else if c == '\t' then ['\\', 't']
  else if c == '\r' then ['\\', 'r']
  else if c == '\n' then ['\\', 'n']
  else if c == '\\' || c == quote then ['\\', c]
  else if isExtendingMark c || isIgnorable c || !isPrintable c then byCodePoint c
  else [c]

end Quoted

/-- A text between double quotes. -/
def quoted (s : String) : String :=
  String.ofList ('"' :: (s.toList.flatMap (Quoted.escape '"') ++ ['"']))

/-- A character between single quotes. -/
def quotedChar (c : Char) : String :=
  String.ofList ('\'' :: (Quoted.escape '\'' c ++ ['\'']))

/-- A list of texts, quoted, between square brackets. -/
def quotedList (texts : List String) : String :=
  "[" ++ ", ".intercalate (texts.map quoted) ++ "]"

end FieldChecks
