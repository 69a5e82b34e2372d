/-!
# Byte sequences

A range of characters, written in UTF-8, is a list of sequences of byte
ranges: a text of one character of the range is one byte of every range
of one of the sequences. The sequences come in increasing order, and they
are as few as bytes allow: where the characters behind a leading byte all
belong to the range, its continuation bytes are left free.
-/

namespace FieldChecks.Pattern

/-- An inclusive range of bytes. -/
structure ByteRange where
  first : Nat
  last : Nat
  deriving Repr, DecidableEq

/-- Ranges of bytes that follow each other. -/
abbrev ByteSequence := List ByteRange

namespace ByteSequence

/-- The bytes that may follow a leading byte. -/
def continuation : ByteRange := ⟨0x80, 0xbf⟩

/-- A byte in front of sequences. -/
def behind (byte : Nat) (sequences : List ByteSequence) : List ByteSequence :=
  sequences.map (⟨byte, byte⟩ :: ·)

/-- The sequences of the numbers from `first` to `last`, written as a byte that starts with a mark
and as many continuation bytes as `more` says, of six bits each. -/
def ofNumbers (mark : Nat) : (more : Nat) → (first last : Nat) → List ByteSequence
  | 0, first, last => [[⟨mark + first, mark + last⟩]]
  | more + 1, first, last =>
    let size := Nat.pow 64 (more + 1)
    let (low, high) := (first / size, last / size)
    let inside := ofNumbers 0x80 more
    if low == high then behind (mark + low) (inside (first % size) (last % size))
    else
      let startsWhole := first % size == 0
      let endsWhole := last % size == size - 1
      let start := if startsWhole then [] else
        behind (mark + low) (inside (first % size) (size - 1))
      let final := if endsWhole then [] else behind (mark + high) (inside 0 (last % size))
      let low := if startsWhole then low else low + 1
      let free := if endsWhole then high + 1 else high
      let middle := if low < free then
          [⟨mark + low, mark + free - 1⟩ :: List.replicate (more + 1) continuation]
        else []
      start ++ middle ++ final

/-- The code points with a number of continuation bytes, and the mark of their leading byte.
Surrogates are left out. -/
def forms : List (Nat × Nat × Nat × Nat) :=
  [(0, 0x7f, 0, 0), (0x80, 0x7ff, 0xc0, 1), (0x800, 0xd7ff, 0xe0, 2), (0xe000, 0xffff, 0xe0, 2),
   (0x10000, 0x10ffff, 0xf0, 3)]

/-- The sequences of the characters of a range. -/
def ofRange (first last : Nat) : List ByteSequence :=
  forms.flatMap fun (low, high, mark, more) =>
    if max first low ≤ min last high then ofNumbers mark more (max first low) (min last high)
    else []

end ByteSequence

/-- How many bytes a character takes. -/
def byteCount (n : Nat) : Nat :=
  if n < 0x80 then 1 else if n < 0x800 then 2 else if n < 0x10000 then 3 else 4

/-- The bytes of a character. -/
def bytesOf (n : Nat) : List Nat :=
  (ByteSequence.ofRange n n).flatten.map (·.first)

end FieldChecks.Pattern
