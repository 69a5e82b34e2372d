import FieldChecks.Text.Ascii

/-!
# Punycode

A label of a domain name is written with letters, digits and hyphens
alone: first its ASCII characters, then, behind the last hyphen, the other
characters in increasing order. A number for each says how far it lies
behind the last one, counting first the places and then the code points.
The numbers are written in base 36, the lowest digit first, and end at a
digit below a threshold that adapts to the numbers before.
-/

namespace FieldChecks

namespace Punycode

/-- The base of the numbers. -/
def base : Nat := 36

/-- The least code point that is not written as itself. -/
def firstCodePoint : Nat := 0x80

/-- The bias before any number. -/
def firstBias : Nat := 72

/-- The greatest number that may arise. -/
def limit : Nat := Nat.pow 2 32 - 1

/-- The digit of a value below the base. -/
def digitChar (value : Nat) : Char :=
  if value < 26 then Char.ofNat ('a'.toNat + value) else Char.ofNat ('0'.toNat + (value - 26))

/-- The value of a digit. -/
def digitValue? (c : Char) : Option Nat :=
  if 'a' ≤ c ∧ c ≤ 'z' then some (c.toNat - 'a'.toNat)
  else if '0' ≤ c ∧ c ≤ '9' then some (c.toNat - '0'.toNat + 26)
  else none

/-- The digits below the threshold end a number. The place is the base times the number of the
digit, counted from one. -/
def threshold (bias place : Nat) : Nat :=
  if place ≤ bias then 1 else min 26 (place - bias)

theorem one_le_threshold (bias place : Nat) : 1 ≤ threshold bias place := by
  unfold threshold
  split <;> omega

/-- The bias for a number that is taken for large or small by the one before it. -/
def biasFrom (bias delta : Nat) : Nat :=
  if 455 < delta then biasFrom (bias + base) (delta / 35) else bias + base * delta / (delta + 38)
termination_by delta
decreasing_by omega

/-- The bias after a number, when `count` characters are written and the number was the first or
not. -/
def adapt (delta count : Nat) (isFirst : Bool) : Nat :=
  let delta := if isFirst then delta / 700 else delta / 2
  biasFrom 0 (delta + delta / count)

/-! ## Reading -/

/-- What is known between two numbers: the text so far, the code point and the place of the last
insertion, and the bias. -/
structure Progress where
  text : List Char
  codePoint : Nat
  place : Nat
  bias : Nat
  deriving Repr, DecidableEq

/-- The progress after a number that moves the place to `sum`, counted over the rounds for each
code point; none if there is no such code point. -/
def Progress.insert? (progress : Progress) (sum : Nat) : Option Progress :=
  let count := progress.text.length + 1
  let codePoint := progress.codePoint + sum / count
  if codePoint.isValidChar then
    some {
      text := progress.text.insertIdx (sum % count) (Char.ofNat codePoint)
      codePoint
      place := sum % count + 1
      bias := adapt (sum - progress.place) count (progress.place == 0) }
  else none

/-- The text that digits complete, within a number of which the digits so far move the place to
`sum`, and the next one has a weight and a place. -/
def readDigits (progress : Progress) (sum weight place : Nat) : List Char → Option (List Char)
  | [] => if place = base then some progress.text else none
  | c :: cs => do
    let digit ← digitValue? c
    let sum := sum + digit * weight
    let least := threshold progress.bias place
    if limit < sum then none
    else if digit < least then
      let progress ← progress.insert? sum
      readDigits progress progress.place 1 base cs
    else if limit < weight * (base - least) then none
    else readDigits progress sum (weight * (base - least)) (place + base) cs

/-- The parts before and after the last hyphen; without a hyphen, all is after it. A hyphen at the
start does not count. -/
def cutAtHyphen (cs : List Char) : List Char × List Char :=
  let digits := cs.reverse.takeWhile (· != '-')
  match (cs.reverse.dropWhile (· != '-')).tail with
  | [] => ([], cs)
  | ascii => (ascii.reverse, digits.reverse)

/-- The text that a label stands for. -/
def decode? (cs : List Char) : Option (List Char) :=
  let (ascii, digits) := cutAtHyphen cs
  if cs.all (·.toNat < firstCodePoint) then
    readDigits ⟨ascii, firstCodePoint, 0, firstBias⟩ 0 1 base digits
  else none

/-! ## Writing -/

/-- The digits of a number. -/
def numberDigits (bias place n : Nat) : List Char :=
  let least := threshold bias place
  if n < least then [digitChar n]
  else digitChar (least + (n - least) % (base - least)) ::
    numberDigits bias (place + base) ((n - least) / (base - least))
termination_by n
decreasing_by
  have := one_le_threshold bias place
  have : (n - threshold bias place) / (base - threshold bias place) ≤ n - threshold bias place :=
    Nat.div_le_self _ _
  omega

/-- What is known while a text is written: the digits so far, the number that is counted, the
bias, and how many characters are written. -/
structure Writing where
  digits : List Char
  delta : Nat
  bias : Nat
  count : Nat
  deriving Repr, DecidableEq

/-- Passes over a character of the text while those with a code point are written. -/
def Writing.pass (isFirst : Nat → Bool) (codePoint : Nat) (writing : Writing) (c : Char) :
    Writing :=
  if c.toNat < codePoint then { writing with delta := writing.delta + 1 }
  else if c.toNat = codePoint then
    { digits := writing.digits ++ numberDigits writing.bias base writing.delta
      delta := 0
      bias := adapt writing.delta (writing.count + 1) (isFirst writing.count)
      count := writing.count + 1 }
  else writing

/-- Writes the characters of a text that have one of the increasing code points, of which the
first is at least `next`. -/
def writeRounds (cs : List Char) (isFirst : Nat → Bool) (next : Nat) (writing : Writing) :
    List Nat → Writing
  | [] => writing
  | codePoint :: codePoints =>
    let start := { writing with delta := writing.delta + (codePoint - next) * (writing.count + 1) }
    let done := cs.foldl (Writing.pass isFirst codePoint) start
    writeRounds cs isFirst (codePoint + 1) { done with delta := done.delta + 1 } codePoints

/-- The label that stands for a text. -/
def encode (cs : List Char) : List Char :=
  let ascii := cs.filter (·.toNat < firstCodePoint)
  let others := (cs.map Char.toNat).filter (firstCodePoint ≤ ·)
  let codePoints := (others.mergeSort (· ≤ ·)).eraseDups
  let written := writeRounds cs (· == ascii.length) firstCodePoint
    ⟨[], 0, firstBias, ascii.length⟩ codePoints
  ascii ++ (if ascii.isEmpty then [] else ['-']) ++ written.digits

end Punycode

end FieldChecks
