import FieldChecks.Text.Ascii

/-!
# IP addresses

An address of version 4 is four decimal numbers up to 255, without
leading zeros, joined by dots. One of version 6 is eight groups of up to
four hexadecimal digits joined by colons; the last two groups may be
written as an address of version 4, and one run of zero groups may be
left out, leaving two colons.
-/

namespace FieldChecks

/-- An IP address: four octets, or eight groups of sixteen bits. -/
inductive IpAddress where
  | v4 (octets : List Nat)
  | v6 (groups : List Nat)
  deriving Repr, DecidableEq

namespace IpAddress

/-- A number of one to `most` digits up to `limit` at the start of a text, and what follows. Only
if `zeros` may it have zeros in front. -/
def number? (base most limit : Nat) (zeros : Bool) (cs : List Char) : Option (Nat × List Char) :=
  let (digits, rest) := cs.span fun c => (digit? base c).isSome
  let hasZeros := 1 < digits.length && digits.head? == some '0'
  if digits.isEmpty || most < digits.length || (!zeros && hasZeros) then none
  else ((digitsValue? base digits).filter (· ≤ limit)).map fun n => (n, rest)

/-- What follows a character at the start of a text. -/
def behind? (c : Char) : List Char → Option (List Char)
  | [] => none
  | d :: cs => if c == d then some cs else none

/-- An octet and, if `more` are to come, dots and further octets. -/
def octets? : (more : Nat) → List Char → Option (List Nat × List Char)
  | 0, cs => (number? 10 3 255 false cs).map fun (n, rest) => ([n], rest)
  | more + 1, cs => do
    let (n, rest) ← number? 10 3 255 false cs
    let (ns, rest) ← octets? more (← behind? '.' rest)
    return (n :: ns, rest)

/-- The two groups that four octets make. -/
def groupsOfOctets : List Nat → List Nat
  | a :: b :: rest => (256 * a + b) :: groupsOfOctets rest
  | _ => []

/-- At most `room` groups at the start of a text, whether the last two of them were written as
octets, and what follows. -/
def groups : (room : Nat) → (first : Bool) → List Char → List Nat × Bool × List Char
  | 0, _, cs => ([], false, cs)
  | room + 1, first, cs =>
    match if first then some cs else behind? ':' cs with
    | none => ([], false, cs)
    | some body =>
      match if room == 0 then none else octets? 3 body with
      | some (octets, rest) => (groupsOfOctets octets, true, rest)
      | none => match number? 16 4 0xffff true body with
        | none => ([], false, cs)
        | some (n, rest) =>
          let (ns, inOctets, rest) := groups room false rest
          (n :: ns, inOctets, rest)

/-- The eight groups at the start of a text, and what follows. -/
def eightGroups? (cs : List Char) : Option (List Nat × List Char) :=
  let (head, inOctets, rest) := groups 8 true cs
  if head.length == 8 then some (head, rest)
  else if inOctets then none
  else do
    let rest ← behind? ':' (← behind? ':' rest)
    let (tail, _, rest) := groups (7 - head.length) true rest
    return (head ++ List.replicate (8 - head.length - tail.length) 0 ++ tail, rest)

/-- The address that a text writes. -/
def read? (text : String) : Option IpAddress :=
  match octets? 3 text.toList with
  | some (octets, rest) => if rest.isEmpty then some (.v4 octets) else none
  | none => match eightGroups? text.toList with
    | some (groups, []) => some (.v6 groups)
    | _ => none

/-- Whether an address is of version 4, or of version 6 but stands for one of version 4. -/
def isV4 : IpAddress → Bool
  | .v4 _ => true
  | .v6 groups => groups.take 6 == [0, 0, 0, 0, 0, 0xffff]

end IpAddress

end FieldChecks
