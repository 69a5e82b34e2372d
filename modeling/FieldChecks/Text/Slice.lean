/-!
# Slices

A place in a text may be told by the number of bytes in front of it. A
character takes one to four bytes, so not every number tells a place, and
there is a slice of a text only between two numbers that do.
-/

namespace FieldChecks

namespace Chars

/-- The characters in front of an offset in bytes and the ones behind it, unless the offset is
beyond the end or within a character. -/
def splitAtByte? : (offset : Nat) → List Char → Option (List Char × List Char)
  | 0, cs => some ([], cs)
  | _ + 1, [] => none
  | offset + 1, c :: cs =>
    if c.utf8Size ≤ offset + 1 then
      (splitAtByte? (offset + 1 - c.utf8Size) cs).map fun (front, back) => (c :: front, back)
    else none

/-- The characters between two offsets in bytes. -/
def slice? (start stop : Nat) (cs : List Char) : Option (List Char) := do
  let (front, _) ← splitAtByte? stop cs
  let (_, part) ← splitAtByte? start front
  return part

/-- How many bytes stand in front of the last occurrence of a character. -/
def lastOffset? (c : Char) : List Char → Option Nat
  | [] => none
  | d :: cs => match lastOffset? c cs with
    | some offset => some (d.utf8Size + offset)
    | none => if d == c then some 0 else none

end Chars

end FieldChecks
