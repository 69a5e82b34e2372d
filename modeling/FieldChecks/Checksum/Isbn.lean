import FieldChecks.CheckError
import FieldChecks.Number.Machine

/-!
# ISBN checksums

An ISBN of ten characters weights them from ten down to one, the last
one being a digit or `X` for ten, and the sum is a multiple of eleven. An
ISBN of thirteen digits weights them by one and three in turn, and the
last digit is the one that makes the sum a multiple of ten. Lengths are
counted in bytes, and a byte that is no digit is shown as the character
of the same number.
-/

namespace FieldChecks

namespace Isbn

/-- The bytes of a text. -/
def bytes (text : String) : List UInt8 :=
  text.toList.flatMap String.utf8EncodeChar

/-- A text without dashes. -/
def withoutDashes (text : String) : String :=
  String.ofList (text.toList.filter (· != '-'))

/-- The error about a byte that is no digit. -/
def badByte (length : String) (b : UInt8) : CheckError :=
  .invalid ("invalid character in ISBN-" ++ length ++ ": " ++ String.singleton (Char.ofNat b.toNat))

/-- The error about a text that is no ISBN of a length. -/
def wrong (length text : String) : CheckError :=
  .invalid (quoted text ++ " is not a valid ISBN-" ++ length)

/-- The error about a text of another length than an ISBN has. -/
def wrongLength (text : String) : CheckError :=
  .invalid (quoted text ++ " is not a valid ISBN (must be 10 or 13 digits)")

section Machine

variable {m : Type → Type} [Monad m] (machine : Machine m)

/-- The value of the byte of an ASCII digit. -/
def digitByte? (b : UInt8) : m (Option UInt32) := do
  if 0x30 ≤ b && b ≤ 0x39 then return some (← machine.subByte b 0x30).toUInt32
  else return none

/-- The value of a byte of an ISBN of ten characters: a digit, or an `X` of either case at the
end. -/
def value10? (b : UInt8) (i : Nat) : m (Option UInt32) :=
  if i == 9 && (b == 0x58 || b == 0x78) then return some 10 else digitByte? machine b

/-- The weight of a position in an ISBN of ten characters. -/
def weight10 (i : Nat) : m UInt32 :=
  machine.sub 10 (.ofNat i)

/-- The weight of a position in an ISBN of thirteen digits. -/
def weight13 (i : Nat) : UInt32 :=
  if i % 2 == 0 then 1 else 3

/-- The sum of the values of bytes by the weights of their positions, where the first one has
position `i`, on top of what there is, or the first byte that has no value. -/
def sumOn (weight : Nat → m UInt32) (value? : UInt8 → Nat → m (Option UInt32)) :
    (i : Nat) → (sum : UInt32) → List UInt8 → m (Except UInt8 UInt32)
  | _, sum, [] => pure (.ok sum)
  | i, sum, b :: bs => do
    let weight' ← weight i
    match ← value? b i with
    | none => pure (.error b)
    | some value => do
      let term ← machine.mul value weight'
      let sum ← machine.add sum term
      sumOn weight value? (i + 1) sum bs

/-- Checks an ISBN of ten characters on a machine. -/
def check10On (text : String) : m (Except CheckError Unit) := do
  let bytes := bytes text
  if bytes.length != 10 then return .error (wrong "10" text)
  match ← sumOn machine (weight10 machine) (value10? machine) 0 0 bytes with
  | .error b => return .error (badByte "10" b)
  | .ok sum => return if sum % 11 == 0 then .ok () else .error (wrong "10" text)

/-- Checks an ISBN of thirteen digits on a machine: the last digit is the one that the others
ask for. -/
def check13On (text : String) : m (Except CheckError Unit) := do
  let bytes := bytes text
  if bytes.length != 13 then return .error (wrong "13" text)
  let front ← machine.firstBytes bytes 12
  match ← sumOn machine (fun i => pure (weight13 i)) (fun b _ => digitByte? machine b) 0 0 front with
  | .error b => return .error (badByte "13" b)
  | .ok sum =>
    let missing ← machine.sub 10 (sum % 10)
    let last ← machine.byteAt bytes 12
    let value? ← digitByte? machine last
    return if value? == some (missing % 10) then .ok () else .error (wrong "13" text)

/-- Checks an ISBN of either length on a machine, ignoring dashes. -/
def checkOn (text : String) : m (Except CheckError Unit) :=
  let cleaned := withoutDashes text
  match (bytes cleaned).length with
  | 10 => check10On machine cleaned
  | 13 => check13On machine cleaned
  | _ => pure (.error (wrongLength text))

end Machine

/-- Checks an ISBN of ten characters. -/
def check10 (text : String) : Except CheckError Unit :=
  Id.run (check10On .wrapping text)

/-- Checks an ISBN of thirteen digits. -/
def check13 (text : String) : Except CheckError Unit :=
  Id.run (check13On .wrapping text)

/-- Checks an ISBN of either length, ignoring dashes. -/
def check (text : String) : Except CheckError Unit :=
  Id.run (checkOn .wrapping text)

end Isbn

end FieldChecks
