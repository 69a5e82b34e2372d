import FieldChecks.Json.Fault
import FieldChecks.Text.Ascii

/-!
# Strings in JSON

A string is written between double quotes; the quote, the backslash and
the control characters are escaped. Reading also takes escapes of other
characters by their code units of UTF-16, where a pair of surrogates
stands for one character and a lone surrogate is refused.
-/

namespace FieldChecks.Json

namespace StringLiteral

/-- A control character by its code unit. -/
def codeUnitEscape (c : Char) : List Char :=
  let digits := hexDigits c.toNat
  ['\\', 'u'] ++ List.replicate (4 - digits.length) '0' ++ digits

/-- A character as it is written inside a string. -/
def escape (c : Char) : List Char :=
  if c == '"' || c == '\\' then ['\\', c]
  else if c == '\x08' then ['\\', 'b']
  else if c == '\x0c' then ['\\', 'f']
  else if c == '\n' then ['\\', 'n']
  else if c == '\r' then ['\\', 'r']
  else if c == '\t' then ['\\', 't']
  else if c < ' ' then codeUnitEscape c
  else [c]

/-- The character that a backslash and a letter stand for. -/
def unescape? : Char → Option Char
  | '"' => some '"'
  | '\\' => some '\\'
  | '/' => some '/'
  | 'b' => some '\x08'
  | 'f' => some '\x0c'
  | 'n' => some '\n'
  | 'r' => some '\r'
  | 't' => some '\t'
  | _ => none

/-- Whether a code unit is the first one of a pair. -/
def isLeading (unit : Nat) : Bool :=
  0xd800 ≤ unit && unit ≤ 0xdbff

/-- Whether a code unit is the second one of a pair. -/
def isTrailing (unit : Nat) : Bool :=
  0xdc00 ≤ unit && unit ≤ 0xdfff

/-- The character of a pair of code units. -/
def pairChar (leading trailing : Nat) : Char :=
  Char.ofNat (0x10000 + (leading - 0xd800) * 0x400 + (trailing - 0xdc00))

/-- The stop at what should be four hexadecimal digits and is not: the four bytes count as read. -/
def badCodeUnit (cs : List Char) : Stop :=
  if byteCount cs < 4 then stopHere .endInString [] else stopInto 4 .invalidEscape cs

/-- A text with one more character in front. -/
def prepend (c : Char) : Except Stop (List Char × List Char) → Except Stop (List Char × List Char)
  | .ok (text, rest) => .ok (c :: text, rest)
  | .error stop => .error stop

/-- The text of a string whose opening quote has been read, and what follows its closing quote. -/
def read : List Char → Except Stop (List Char × List Char)
  | [] => .error (stopHere .endInString [])
  | c :: cs =>
    if c == '"' then .ok ([], cs)
    else if c < ' ' then .error (stopAtNext .controlCharacter (c :: cs))
    else if c != '\\' then prepend c (read cs)
    else match cs with
      | [] => .error (stopHere .endInString [])
      | e :: cs =>
        if e != 'u' then match unescape? e with
          | some c => prepend c (read cs)
          | none => .error (stopAtNext .invalidEscape (e :: cs))
        else match cs with
          | u₁ :: u₂ :: u₃ :: u₄ :: rest => match digitsValue? 16 [u₁, u₂, u₃, u₄] with
            | none => .error (badCodeUnit cs)
            | some unit =>
              if isTrailing unit then .error (stopHere .loneSurrogate rest)
              else if !isLeading unit then prepend (Char.ofNat unit) (read rest)
              else match rest with
                | [] => .error (stopHere .endInString [])
                | '\\' :: rest => match rest with
                  | [] => .error (stopHere .endInString [])
                  | 'u' :: rest => match rest with
                    | v₁ :: v₂ :: v₃ :: v₄ :: after => match digitsValue? 16 [v₁, v₂, v₃, v₄] with
                      | none => .error (badCodeUnit rest)
                      | some second =>
                        if isTrailing second then prepend (pairChar unit second) (read after)
                        else .error (stopHere .loneSurrogate after)
                    | _ => .error (badCodeUnit rest)
                  | _ => .error (stopAtNext .unexpectedEndOfEscape rest)
                | _ => .error (stopAtNext .unexpectedEndOfEscape rest)
          | _ => .error (badCodeUnit cs)

end StringLiteral

/-- The characters of a text written as a JSON string. -/
def stringChars (s : String) : List Char :=
  '"' :: (s.toList.flatMap StringLiteral.escape ++ ['"'])

/-- A text written as a JSON string. -/
def writeString (s : String) : String :=
  String.ofList (stringChars s)

end FieldChecks.Json
