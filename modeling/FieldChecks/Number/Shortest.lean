import FieldChecks.Number.Binary64

/-!
# Shortest decimal digits

Of the decimal numbers that round to a given floating-point number, the
shortest ones have the fewest digits, and of those the nearest is the one
that is written. For one, two, … digits in turn, only the two neighbours
of the number on the grid of that many digits have to be tried.
-/

namespace FieldChecks

/-- A positive decimal number: digits, and the power of ten of the last of them. -/
structure Decimal where
  digits : Nat
  exponent : Int
  deriving Repr, DecidableEq

namespace Decimal

/-- The same number without zeros at the end of its digits, dropping at most `fuel` of them. -/
def withoutZeros : (fuel : Nat) → Decimal → Decimal
  | 0, d => d
  | fuel + 1, d =>
    if d.digits % 10 == 0 then withoutZeros fuel ⟨d.digits / 10, d.exponent + 1⟩ else d

/-- The characters of the digits, most significant first. -/
def digitChars (d : Decimal) : List Char :=
  Nat.toDigits 10 d.digits

/-- How many digits stand before the decimal point; zero or less if there are zeros behind it. -/
def point (d : Decimal) : Int :=
  d.digitChars.length + d.exponent

end Decimal

/-- Which of two equally near decimal numbers is written. -/
inductive Tie where
  /-- The larger one. -/
  | up
  /-- The one whose last digit is even. -/
  | even
  deriving Repr, DecidableEq

namespace Shortest

/-- The numerator and denominator of `num / den` divided by a power of ten. -/
def overPowerOfTen (num den : Nat) (exponent : Int) : Nat × Nat :=
  match exponent with
  | .ofNat e => (num, den * Nat.pow 10 e)
  | .negSucc e => (num * Nat.pow 10 (e + 1), den)

/-- The decimal exponent of a positive quotient: the power of ten of its first digit. -/
def leadingExponent (num den : Nat) : Int :=
  let guess : Int := (Nat.toDigits 10 num).length - (Nat.toDigits 10 den).length
  let (n, d) := overPowerOfTen num den guess
  if d ≤ n then guess else guess - 1

/-- The numbers that round to `middle / den`: those from `low / den` to `high / den`, with the two
ends if `closed`. -/
structure Interval where
  low : Nat
  middle : Nat
  high : Nat
  den : Nat
  closed : Bool

namespace Interval

/-- The interval of a finite positive number. Below a power of two the neighbour is half as far. -/
def of (x : Binary64) : Interval :=
  let (m, q) := x.decode
  let below := if m == Nat.pow 2 52 && q != -1074 then 1 else 2
  let (scale, den) := match q - 2 with
    | .ofNat e => (Nat.pow 2 e, 1)
    | .negSucc e => (1, Nat.pow 2 (e + 1))
  ⟨(4 * m - below) * scale, 4 * m * scale, (4 * m + 2) * scale, den, m % 2 == 0⟩

/-- Whether `num / den`, over the same denominator, lies in the interval. -/
def holds (i : Interval) (num : Nat) : Bool :=
  if i.closed then i.low ≤ num && num ≤ i.high else i.low < num && num < i.high

/-- The decimal number on the grid of a power of ten that lies in the interval, if one does. Of
two, the nearer to the middle is taken, and of two equally near the one that the tie asks for. -/
def onGrid? (i : Interval) (tie : Tie) (exponent : Int) : Option Decimal :=
  let (unitNum, unitDen) := overPowerOfTen 1 1 (-exponent)
  let scaled : Interval := ⟨i.low * unitDen, i.middle * unitDen, i.high * unitDen, 1, i.closed⟩
  let unit := i.den * unitNum
  let floor := scaled.middle / unit
  let rest := scaled.middle % unit
  let lowIn := floor != 0 && scaled.holds (floor * unit)
  let highIn := scaled.holds ((floor + 1) * unit)
  let lowOnTie := tie == .even && floor % 2 == 0
  let lowNearer := 2 * rest < unit || (2 * rest == unit && lowOnTie)
  if lowIn && (!highIn || lowNearer) then some ⟨floor, exponent⟩
  else if highIn then some ⟨floor + 1, exponent⟩
  else none

/-- The first grid with a number in the interval, from the grid of an exponent downwards. -/
def firstOnGrid (i : Interval) (tie : Tie) : (fuel : Nat) → (exponent : Int) → Decimal
  | 0, exponent => ⟨i.middle / i.den, exponent⟩
  | fuel + 1, exponent => match i.onGrid? tie exponent with
    | some d => d
    | none => firstOnGrid i tie fuel (exponent - 1)

end Interval

end Shortest

/-- The shortest decimal number that rounds to a finite positive number. -/
def Binary64.shortest (x : Binary64) (tie : Tie) : Decimal :=
  let interval := Shortest.Interval.of x
  let d := interval.firstOnGrid tie 17 (Shortest.leadingExponent interval.middle interval.den)
  d.withoutZeros 18

end FieldChecks
