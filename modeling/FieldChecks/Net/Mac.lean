import FieldChecks.Number.Machine
import FieldChecks.Text.Ascii

/-!
# MAC addresses

An address of six, eight or twenty octets, written as pairs of
hexadecimal digits joined by colons or by dashes, or as groups of four
digits joined by dots. How many groups there are follows from the number
of bytes, and each group is looked for at its own position. Bytes are
taken by their positions on some machine, and a byte stands for the
character of the same number.
-/

namespace FieldChecks

namespace Mac

/-- How many octets an address may have. -/
def octetCounts : List Nat := [6, 8, 20]

section Machine

variable {m : Type → Type} [Monad m] (machine : Machine m) (bytes : List UInt8)

/-- The character of the number of the byte at a position. -/
def charAt (position : Nat) : m Char := do
  return Char.ofNat (← machine.byteAt bytes position).toNat

/-- Whether there are two hexadecimal digits from a position on. The second one is looked at only
behind a first one. -/
def pairAt (position : Nat) : m Bool := do
  if isHexDigit (← charAt machine bytes position) then
    return isHexDigit (← charAt machine bytes (position + 1))
  else return false

/-- Whether there are four hexadecimal digits from a position on. All four are taken at once. -/
def quadAt (position : Nat) : m Bool := do
  let quad ← machine.firstBytes (bytes.drop position) 4
  return quad.all fun b => isHexDigit (Char.ofNat b.toNat)

/-- Whether there is a group of digits of a size at a position, and behind it the end or a
separator. -/
def groupAt (digitsAt : Nat → m Bool) (size : Nat) (separator : Char) (position : Nat) :
    m Bool := do
  if ← digitsAt position then
    if position + size == bytes.length then return true
    else return (← charAt machine bytes (position + size)) == separator
  else return false

/-- Whether bytes are groups of digits, each for so many octets, joined by a separator. There are
as many groups as there is room for. -/
def areGroups (octetsPerGroup : Nat) (digitsAt : Nat → m Bool) (separator : Char) : m Bool := do
  let size := 2 * octetsPerGroup
  if (bytes.length + 1) % (size + 1) != 0 then return false
  let octets := octetsPerGroup * (bytes.length + 1) / (size + 1)
  if !octetCounts.contains octets then return false
  (List.range (octets / octetsPerGroup)).allM fun i =>
    groupAt machine bytes digitsAt size separator (i * (size + 1))

/-- Whether bytes are an address, on a machine. Which notation they are in shows in the third byte,
or else in the fifth. -/
def isAddressOn : m Bool := do
  if bytes.length < 14 then return false
  let third ← charAt machine bytes 2
  if third == ':' || third == '-' then areGroups machine bytes 1 (pairAt machine bytes) third
  else if (← charAt machine bytes 4) == '.' then areGroups machine bytes 2 (quadAt machine bytes) '.'
  else return false

end Machine

/-- Whether bytes are an address. -/
def isAddress (bytes : List UInt8) : Bool :=
  Id.run (isAddressOn .wrapping bytes)

end Mac

end FieldChecks
