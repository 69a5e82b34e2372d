import FieldChecks.Checks.Pattern
import FieldChecks.Checksum.Isbn
import FieldChecks.Checksum.Luhn
import FieldChecks.Checksum.Npi
import FieldChecks.Json.Skip
import FieldChecks.Net.Ip
import FieldChecks.Net.Mac
import FieldChecks.Net.Url
import FieldChecks.Text.Blank
import FieldChecks.Text.Slice

/-!
# Checks of formats

Each check looks at the text of a value: a format with a pattern of its
own, an address, a class of characters, or a number with a check digit. A
value without a text is rejected with the error that says so.
-/

namespace FieldChecks.Format

/-! ## Patterns -/

/-- Mail addresses. -/
def emailPattern : String :=
  "^[a-zA-Z0-9.!#$%&'*+/=?^_\x60\x7b|\x7d~-]+@" ++
  "[a-zA-Z0-9](?:[a-zA-Z0-9-]\x7b0,61\x7d[a-zA-Z0-9])?" ++
  "(?:\\.[a-zA-Z0-9](?:[a-zA-Z0-9-]\x7b0,61\x7d[a-zA-Z0-9])?)*$"

/-- UUIDs, their hyphens optional. -/
def uuidPattern : String :=
  "(?i)^[0-9a-f]\x7b8\x7d-?[0-9a-f]\x7b4\x7d-?[0-9a-f]\x7b4\x7d-?" ++
  "[0-9a-f]\x7b4\x7d-?[0-9a-f]\x7b12\x7d$"

/-- Identifiers of twenty-four hexadecimal digits. -/
def mongoidPattern : String := "(?i)^[0-9a-f]\x7b24\x7d$"

/-- Hexadecimal numbers. -/
def hexadecimalPattern : String := "(?i)^[0-9a-f]+$"

/-- Groups of four characters for three bytes, the last one padded. -/
def base64Pattern : String :=
  "(?i)^(?:[a-z0-9+/]\x7b4\x7d)*(?:[a-z0-9+/]\x7b2\x7d==|[a-z0-9+/]\x7b3\x7d=)?$"

/-- Domain names of at least two labels. -/
def domainPattern : String :=
  "(?i)^([a-z0-9]([a-z0-9\\-]\x7b0,61\x7d[a-z0-9])?\\.)+[a-z]\x7b2,\x7d$"

/-- Social security numbers. -/
def ssnPattern : String :=
  "^(0(0[1-9]|[1-9]\\d)|[1-5]\\d\\d|6([0-5]\\d|6[0-5]|6[7-9]|[7-9]\\d)|[7-8]\\d\\d)" ++
  "-(0[1-9]|[1-9]\\d)" ++
  "-(000[1-9]|00[1-9]\\d|0[1-9]\\d\\d|[1-9]\\d\\d\\d)$"

/-- Texts of letters. -/
def alphaPattern : String := "(?i)^[a-z]*$"

/-- Texts of letters and digits. -/
def alphanumPattern : String := "(?i)^[a-z0-9]*$"

/-- Texts of digits. -/
def numericPattern : String := "^\\d*$"

/-- A colour component from 0 to 255. -/
def componentPattern : String := "((?:2(?:5[0-5]|[0-4]\\d)|1\\d\\d|[1-9]?\\d))"

/-- Colours of three components. -/
def rgbPattern : String :=
  "^rgb\\(" ++ componentPattern ++ "," ++ componentPattern ++ "," ++ componentPattern ++ "\\)$"

/-- Colours of three components and an opacity. -/
def rgbaPattern : String :=
  "^rgba\\(" ++ componentPattern ++ "," ++ componentPattern ++ "," ++ componentPattern ++
  ",(0|1|0?\\.\\d+)\\)$"

/-- Whether a text is a mail address, of which the pattern speaks. -/
def isMailAddress (address : String) : Bool :=
  match Pattern.read emailPattern with
  | .ok regex => regex.matchesIn address
  | .error _ => false

/-! ## Addresses -/

/-- What follows the last occurrence of a character. -/
def afterLast? (c : Char) : List Char → Option (List Char)
  | [] => none
  | d :: cs => match afterLast? c cs with
    | some rest => some rest
    | none => if d == c then some cs else none

/-- The mail address in a text: what stands between the last opening angle bracket and a closing
one at the end, or else the whole text without the blanks around it. -/
def mailAddress (text : String) : String :=
  let cs := text.toList
  let bracketed := if cs.getLast? == some '>' then afterLast? '<' cs else none
  match bracketed with
  | some rest => String.ofList rest.dropLast
  | none => Text.trim text

/-- The mail address in a text, cut out between the byte behind the bracket and the last one. There
is none where a text cannot be cut. -/
def mailAddress? (text : String) : Option String :=
  match Chars.lastOffset? '<' text.toList, text.toList.getLast? == some '>' with
  | some offset, true =>
    (Chars.slice? (offset + 1) (text.utf8ByteSize - 1) text.toList).map String.ofList
  | _, _ => some (Text.trim text)

/-- The check that the text of a value has a property; otherwise it is not what it should be. -/
def textCheck (holds : String → Bool) (thing : String) : Checker := fun value => do
  let text ← value.text
  if holds text then .ok ()
  else .error (.invalid (quoted text ++ " is not a valid " ++ thing))

theorem textCheck_eq_ok_iff {holds : String → Bool} {thing : String} {value : Value} :
    textCheck holds thing value = .ok () ↔
      ∃ text, value.text = .ok text ∧ holds text = true := by
  cases htext : value.text with
  | error fault => simp [textCheck, htext, bind, Except.bind]
  | ok text => cases h : holds text <;> simp [textCheck, htext, h, bind, Except.bind]

/-- A mail address, with or without a name in front of it. -/
def email : Checker :=
  textCheck (fun text => (mailAddress? text).any isMailAddress) "email address"

/-- An IP address of either version. -/
def ip : Checker :=
  textCheck (fun text => (IpAddress.read? text).isSome) "IP address"

/-- An IP address of version 4, or of version 6 that stands for one of version 4. -/
def ipv4 : Checker :=
  textCheck (fun text => (IpAddress.read? text).any (·.isV4)) "IPv4 address"

/-- An IP address of version 6 that does not stand for one of version 4. -/
def ipv6 : Checker :=
  textCheck (fun text => (IpAddress.read? text).any (!·.isV4)) "IPv6 address"

/-- A MAC address. -/
def mac : Checker :=
  textCheck (fun text => Mac.isAddress (text.toList.flatMap String.utf8EncodeChar)) "MAC address"

/-- A URL that names a host. -/
def url : Checker := fun value => do
  let text ← value.text
  match Url.hasHost text with
  | .ok true => .ok ()
  | .ok false =>
    .error (.invalid (quoted text ++ " is not a valid URL (missing scheme or host)"))
  | .error fault => .error (.invalid (quoted text ++ " is not a valid URL: " ++ fault.message))

/-! ## Classes of characters -/

/-- The words for a truth value, in lower case. -/
def booleanWords : List String :=
  ["1", "t", "true", "yes", "y", "on", "0", "f", "false", "no", "n", "off"]

/-- A word for a truth value. -/
def boolean : Checker :=
  textCheck (fun text => booleanWords.contains (String.ofList (text.toList.map asciiLower)))
    "boolean value"

/-- The first character with a property, and how many bytes stand before it and `bytes`. -/
def firstFrom (found : Char → Bool) (bytes : Nat) : List Char → Option (Nat × Char)
  | [] => none
  | c :: cs => if found c then some (bytes, c) else firstFrom found (bytes + c.utf8Size) cs

/-- The check that no character of the text of a value has a property. -/
def withoutChars (found : Char → Bool) (property : String) : Checker := fun value => do
  let text ← value.text
  match firstFrom found 0 text.toList with
  | none => .ok ()
  | some (position, c) =>
    .error (.invalid (quoted text ++ " contains " ++ property ++ " character " ++ quotedChar c ++
      " at position " ++ position.repr))

/-- ASCII characters only. -/
def ascii : Checker :=
  withoutChars (fun c => 128 ≤ c.toNat) "non-ASCII"

/-- No uppercase characters. -/
def lowercase : Checker :=
  withoutChars isUppercase "uppercase"

/-- No lowercase characters. -/
def uppercase : Checker :=
  withoutChars isLowercase "lowercase"

/-- A JSON text. -/
def json : Checker := fun value => do
  let text ← value.text
  match Json.check text with
  | .ok () => .ok ()
  | .error fault => .error (.invalid (quoted text ++ " is not valid JSON: " ++ fault.message))

/-! ## Numbers with a check digit -/

/-- A number that passes the Luhn check. -/
def luhn : Checker := fun value => do
  Luhn.check (← Luhn.normalize value)

/-- An ISBN of either length. -/
def isbn : Checker := fun value => do
  Isbn.check (← value.text)

/-- A provider identifier. -/
def npi : Checker := fun value => do
  Npi.check (← value.text)

/-- Thirteen to nineteen digits that pass the Luhn check. -/
def creditcard : Checker := fun value => do
  let digits ← Luhn.normalize value
  if digits.utf8ByteSize < 13 || 19 < digits.utf8ByteSize then
    .error (.invalid (quoted digits ++ " is not a valid credit card number (wrong length)"))
  else match digits.toList.find? (!isAsciiDigit ·) with
    | some c =>
      .error (.invalid (quoted digits ++ " contains non-digit character: " ++ quotedChar c))
    | none => Luhn.check digits

end FieldChecks.Format
