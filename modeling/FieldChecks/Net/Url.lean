import FieldChecks.Net.Domain
import FieldChecks.Net.Ip
import FieldChecks.Text.Split

/-!
# URLs

An absolute URL is read as browsers read it: blanks and controls at the
ends and tabs and line breaks anywhere are left out, and the schemes of
the web take backslashes for slashes and any number of slashes in front
of the host. What matters here is the host: whether there is one, and
whether it is a good one. The rest of a URL is never at fault, except for
the number that may follow the host.

The host of a web URL is a domain name or an IP address, and so is that
of a file URL, where `localhost` is none; a drive letter at the start of
the path takes the host of a file URL away. The host of any other URL is
any text without separators, or an IP address of version 6.
-/

namespace FieldChecks

namespace Url

/-- Why a text is not a URL. -/
inductive Fault where
  | withoutScheme
  | emptyHost
  | invalidPort
  | invalidIpv4
  | invalidIpv6
  | invalidDomainName
  | invalidHostCharacter
  deriving Repr, DecidableEq

/-- The wording of a fault. -/
def Fault.message : Fault → String
  | .withoutScheme => "relative URL without a base"
  | .emptyHost => "empty host"
  | .invalidPort => "invalid port number"
  | .invalidIpv4 => "invalid IPv4 address"
  | .invalidIpv6 => "invalid IPv6 address"
  | .invalidDomainName => "invalid international domain name"
  | .invalidHostCharacter => "invalid domain character"

/-- The kinds of schemes. -/
inductive SchemeKind where
  | web
  | file
  | other
  deriving Repr, DecidableEq

namespace SchemeKind

/-- The kind of a scheme in lower case. -/
def ofName (name : String) : SchemeKind :=
  if ["http", "https", "ws", "wss", "ftp"].contains name then .web
  else if name == "file" then .file
  else .other

/-- Whether a character is a slash in URLs of a kind. -/
def isSlash (kind : SchemeKind) (c : Char) : Bool :=
  c == '/' || (c == '\\' && kind != .other)

/-- Whether a character ends the part of a URL that holds the host. -/
def endsAuthority (kind : SchemeKind) (c : Char) : Bool :=
  kind.isSlash c || c == '?' || c == '#'

end SchemeKind

/-- Whether a character is left out at the ends of a URL. -/
def isOuterBlank (c : Char) : Bool :=
  c ≤ ' '

/-- Whether a character is left out anywhere in a URL. -/
def isLeftOut (c : Char) : Bool :=
  c == '\t' || c == '\n' || c == '\r'

/-- The characters of a URL that count. -/
def significant (text : String) : List Char :=
  let trimmed := (text.toList.dropWhile isOuterBlank).reverse.dropWhile isOuterBlank
  trimmed.reverse.filter (!isLeftOut ·)

/-- Whether a character may stand in a scheme. -/
def isSchemeChar (c : Char) : Bool :=
  isAsciiLetter c || isAsciiDigit c || c == '+' || c == '-' || c == '.'

/-- The scheme of a URL in lower case, and what follows its colon. -/
def scheme? (cs : List Char) : Option (String × List Char) :=
  match cs.takeWhile isSchemeChar, cs.dropWhile isSchemeChar with
  | first :: others, ':' :: rest =>
    if isAsciiLetter first then some (String.ofList ((first :: others).map asciiLower), rest)
    else none
  | _, _ => none

/-! ## Numbers as hosts -/

/-- A number, which may be written in base sixteen behind `0x` or in base eight behind `0`. -/
def number? (part : List Char) : Option Nat :=
  match part with
  | [] => none
  | '0' :: x :: rest =>
    if x == 'x' || x == 'X' then digitsValue? 16 rest else digitsValue? 8 (x :: rest)
  | digits => digitsValue? 10 digits

/-- The parts of a domain name, without the empty one that a dot at the end makes. -/
def parts (domain : List Char) : List (List Char) :=
  let all := Chars.split ['.'] domain
  if all.getLast? == some [] then all.dropLast else all

/-- Whether the last part of a domain name is a number, so that the name is an IP address. -/
def endsInNumber (domain : List Char) : Bool :=
  match (parts domain).getLast? with
  | none => false
  | some last => (!last.isEmpty && last.all isAsciiDigit) || (number? last).isSome

/-- Whether a domain name that ends in a number is an IP address: up to four numbers, of which the
last one fills the octets that are left. -/
def isIpv4 (domain : List Char) : Bool :=
  let parts := parts domain
  match parts.mapM number? with
  | none => false
  | some numbers =>
    numbers.length ≤ 4 && numbers.dropLast.all (· ≤ 255) &&
      numbers.getLast?.any (· < Nat.pow 256 (5 - numbers.length))

/-! ## Hosts -/

/-- The host of a URL: a text, which may be empty, or an IP address. -/
inductive Host where
  | name (cs : List Char)
  | address
  deriving Repr, DecidableEq

/-- The address between brackets. -/
def bracketed (cs : List Char) : Except Fault Host :=
  if cs.getLast? == some ']' then match IpAddress.eightGroups? (cs.drop 1).dropLast with
    | some (_, []) => .ok .address
    | _ => .error .invalidIpv6
  else .error .invalidIpv6

/-- The bytes of a text with escapes by two hexadecimal digits resolved. -/
def percentDecoded : List Char → List UInt8
  | [] => []
  | '%' :: a :: b :: rest => match hexDigit? a, hexDigit? b with
    | some high, some low => .ofNat (16 * high + low) :: percentDecoded rest
    | _, _ => 0x25 :: percentDecoded (a :: b :: rest)
  | c :: rest => String.utf8EncodeChar c ++ percentDecoded rest

/-- The host of a web or a file URL. -/
def domainHost (cs : List Char) : Except Fault Host :=
  if cs.head? == some '[' then bracketed cs
  else match String.fromUTF8? ⟨(percentDecoded cs).toArray⟩ with
    | none => .error .invalidDomainName
    | some decoded => match Domain.toAscii? decoded.toList with
      | none => .error .invalidDomainName
      | some [] => .error .emptyHost
      | some domain =>
        if !endsInNumber domain then .ok (.name domain)
        else if isIpv4 domain then .ok .address
        else .error .invalidIpv4

/-- Whether a character cannot stand in a host of any URL. -/
def isForbidden (c : Char) : Bool :=
  ['\x00', '\t', '\n', '\r', ' ', '#', '/', ':', '<', '>', '?', '@', '[', '\\', ']', '^',
    '|'].contains c

/-- The host of a URL that is neither of the web nor of a file. -/
def opaqueHost (cs : List Char) : Except Fault Host :=
  if cs.head? == some '[' then bracketed cs
  else if cs.any isForbidden then .error .invalidHostCharacter
  else .ok (.name cs)

/-- The characters of a host, up to a colon outside of brackets, and what follows. -/
def spanHost (kind : SchemeKind) : (inBrackets : Bool) → List Char → List Char × List Char
  | _, [] => ([], [])
  | inBrackets, c :: cs =>
    if kind.endsAuthority c || (c == ':' && !inBrackets) then ([], c :: cs)
    else
      let inBrackets := c == '[' || (inBrackets && c != ']')
      let (host, rest) := spanHost kind inBrackets cs
      (c :: host, rest)

/-! ## The parts behind the scheme -/

/-- The parts before and after the last occurrence of a character. -/
def cutLast? (c : Char) : List Char → Option (List Char × List Char)
  | [] => none
  | d :: cs => match cutLast? c cs with
    | some (before, after) => some (d :: before, after)
    | none => if d == c then some ([], cs) else none

/-- Whether there is a name or a password before the host, and what follows it. -/
def userinfo (kind : SchemeKind) (cs : List Char) : Except Fault (Bool × List Char) :=
  let authority := cs.takeWhile (!kind.endsAuthority ·)
  let rest := cs.dropWhile (!kind.endsAuthority ·)
  match cutLast? '@' authority with
  | none => .ok (false, cs)
  | some ([], host) =>
    if host.isEmpty && !rest.isEmpty then .error .emptyHost else .ok (false, host ++ rest)
  | some (user, host) => .ok (user != [':'], host ++ rest)

/-- Whether what follows the colon behind a host is a number of 16 bits, or nothing. -/
def portNumber (cs : List Char) : Except Fault Unit :=
  let digits := cs.takeWhile isAsciiDigit
  let next := (cs.dropWhile isAsciiDigit).head?
  if 65535 < (digitsValue? 10 digits).getD 0 then .error .invalidPort
  else if next.all (['/', '\\', '?', '#'].contains ·) then .ok ()
  else .error .invalidPort

/-- Whether the part of a URL behind two slashes names a host. -/
def authority (kind : SchemeKind) (cs : List Char) : Except Fault Bool := do
  let (hasUser, cs) ← userinfo kind cs
  let (chars, rest) := spanHost kind false cs
  if chars.isEmpty && kind == .web then .error .emptyHost
  let host ← if kind == .other then opaqueHost chars else domainHost chars
  let isEmpty := host == .name []
  if isEmpty && rest.head? == some ':' then .error .emptyHost
  match rest with
  | ':' :: digits => portNumber digits
  | _ => .ok ()
  if isEmpty && hasUser then .error .emptyHost
  return !isEmpty

/-! ## File URLs -/

/-- Whether a text is a drive letter. -/
def isDriveLetter : List Char → Bool
  | [letter, mark] => isAsciiLetter letter && (mark == ':' || mark == '|')
  | _ => false

/-- Whether a segment of a path stands for the segment above; dots may be escaped. -/
def isDoubleDot (segment : List Char) : Bool :=
  ["..", "%2e%2e", "%2e.", ".%2e"].contains (String.ofList (segment.map asciiLower))

/-- Whether a segment of a path stands for nothing. -/
def isSingleDot (segment : List Char) : Bool :=
  [".", "%2e"].contains (String.ofList (segment.map asciiLower))

/-- Whether the path of a file URL starts with a drive letter, once the dots in it are resolved.
The segments passed are given, the last one first; those of drive letters stay. -/
def reachesDrive (passed : List (List Char)) : List (List Char) → Bool
  | [] => false
  | segment :: segments =>
    if isDoubleDot segment then
      reachesDrive (if passed.head?.any isDriveLetter then passed else passed.tail) segments
    else if isSingleDot segment then reachesDrive passed segments
    else match passed, segment with
      | [], [letter, mark] => if isDriveLetter [letter, mark] then true
        else reachesDrive [segment] segments
      | [], letter :: ':' :: rest =>
        if isAsciiLetter letter then reachesDrive [':' :: rest, [letter, ':']] segments
        else reachesDrive [segment] segments
      | passed, segment => reachesDrive (segment :: passed) segments

/-- The segments of the path of a file URL. -/
def fileSegments (cs : List Char) : List (List Char) :=
  let path := cs.takeWhile fun c => c != '?' && c != '#'
  Chars.split ['/'] (path.map fun c => if c == '\\' then '/' else c)

/-- Whether a file URL names a host. -/
def fileHost (cs : List Char) : Except Fault Bool :=
  match cs with
  | a :: b :: cs =>
    if SchemeKind.file.isSlash a && SchemeKind.file.isSlash b then
      let chars := cs.takeWhile (!SchemeKind.file.endsAuthority ·)
      let rest := cs.dropWhile (!SchemeKind.file.endsAuthority ·)
      if chars.isEmpty || isDriveLetter chars then .ok false
      else match domainHost chars with
        | .error fault => .error fault
        | .ok host =>
          let path := if rest.head?.any SchemeKind.file.isSlash then rest.tail else rest
          .ok (host != .name "localhost".toList && !reachesDrive [] (fileSegments path))
    else .ok false
  | _ => .ok false

/-- Whether a text, if it is a URL, names a host. -/
def hasHost (text : String) : Except Fault Bool :=
  match scheme? (significant text) with
  | none => .error .withoutScheme
  | some (scheme, rest) => match SchemeKind.ofName scheme with
    | .file => fileHost rest
    | .web => authority .web (rest.dropWhile SchemeKind.web.isSlash)
    | .other => match rest with
      | '/' :: '/' :: rest => authority .other rest
      | _ => .ok false

end Url

end FieldChecks
