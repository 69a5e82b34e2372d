import FieldChecks.CheckError
import FieldChecks.Number.Machine
import FieldChecks.Text.Ascii
import FieldChecks.Value.Description

/-!
# The Luhn checksum

Every second digit from the right is doubled, and the digits of all
these numbers add up to a multiple of ten. Spaces and dashes between the
digits do not count. The sum is made in words on some machine.
-/

namespace FieldChecks

namespace Luhn

/-- The characters of a number without spaces and dashes. -/
def withoutSeparators (cs : List Char) : List Char :=
  cs.filter fun c => c != ' ' && c != '-'

/-- A text without spaces and dashes. -/
def strip (text : String) : String :=
  String.ofList (withoutSeparators text.toList)

/-- The error about a number without digits. -/
def noDigits (digits : String) : CheckError :=
  .invalid (quoted digits ++ " is not a valid input for Luhn validation")

/-- The error about a character that is no digit. -/
def notDigit (digits : String) (c : Char) : CheckError :=
  .invalid (quoted digits ++ " contains non-digit character: " ++ quotedChar c)

/-- The error about a number whose sum is not a multiple of ten. -/
def wrongSum (digits : String) : CheckError :=
  .invalid (quoted digits ++ " is not valid according to the Luhn algorithm")

section Machine

variable {m : Type → Type} [Monad m] (machine : Machine m)

/-- The sum of the digits of twice a digit. -/
def doubled (digit : UInt32) : m UInt32 := do
  let twice ← machine.mul digit 2
  if 9 < twice then machine.sub twice 9 else pure twice

/-- What a digit adds to the sum: itself, or the digits of its double. -/
def summand (double : Bool) (digit : UInt32) : m UInt32 :=
  if double then doubled machine digit else pure digit

/-- The sum over digits from the right, on top of what there is, or the first character that is no
digit. `double` tells whether the next digit is doubled. -/
def sumOn : (double : Bool) → (sum : UInt32) → List Char → m (Except Char UInt32)
  | _, sum, [] => pure (.ok sum)
  | double, sum, c :: cs => match digit? 10 c with
    | none => pure (.error c)
    | some d => do
      let summand ← summand machine double (.ofNat d)
      let sum ← machine.add sum summand
      sumOn (!double) sum cs

/-- Checks a number by its Luhn sum on a machine. A character that is no digit is looked for from
the right, while the sum is made. -/
def checkOn (text : String) : m (Except CheckError Unit) := do
  let cs := withoutSeparators text.toList
  let digits := String.ofList cs
  if cs.isEmpty then return .error (noDigits digits)
  match ← sumOn machine false 0 cs.reverse with
  | .error c => return .error (notDigit digits c)
  | .ok sum => return if sum % 10 == 0 then .ok () else .error (wrongSum digits)

end Machine

/-- Checks a number by its Luhn sum. -/
def check (text : String) : Except CheckError Unit :=
  Id.run (checkOn .wrapping text)

/-- The digits of a value: the text of a scalar without spaces and dashes, where a floating-point
number is rounded to an integer. -/
def normalize (value : Value) : Except CheckError String :=
  match value with
  | .float x => .ok (strip x.rounded)
  | value => value.text.map strip

end Luhn

end FieldChecks
