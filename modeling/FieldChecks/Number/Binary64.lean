/-!
# Binary floating-point numbers

A floating-point number of 64 bits is held by its bits, so that equality
is decidable, and signed zeros and NaNs stay apart. A finite number is
`m * 2 ^ q` for the significand `m` and exponent `q` that its bits give.
Rounding is exact: `ofRatio` takes a quotient of natural numbers to the
nearest number, an exact half to the even significand. Comparison goes
through an integer key, of which a NaN has none.
-/

namespace FieldChecks

/-- The quotient of two natural numbers rounded to the nearest integer, a half to the even one. -/
def roundHalfEven (num den : Nat) : Nat :=
  let low := num / den
  let rest := num % den
  if 2 * rest < den || (2 * rest == den && low % 2 == 0) then low else low + 1

/-- A format of binary floating-point numbers: how many bits a significand has, the exponent of
the smallest one, and the power of two that is already infinite. -/
structure BinaryFormat where
  precision : Nat
  leastExponent : Int
  overflow : Nat

namespace BinaryFormat

/-- The format of 32 bits. -/
def single : BinaryFormat := ⟨24, -149, 128⟩

/-- The format of 64 bits. -/
def double : BinaryFormat := ⟨53, -1074, 1024⟩

/-- The quotient `num / den` in units of `2 ^ exponent`, rounded. -/
def inUnits (num den : Nat) (exponent : Int) : Nat :=
  match exponent with
  | .ofNat e => roundHalfEven num (den * Nat.pow 2 e)
  | .negSucc e => roundHalfEven (num * Nat.pow 2 (e + 1)) den

/-- Whether `num / den` is at least `2 ^ exponent`. -/
def atLeastPower (num den : Nat) (exponent : Int) : Bool :=
  match exponent with
  | .ofNat e => den * Nat.pow 2 e ≤ num
  | .negSucc e => den ≤ num * Nat.pow 2 (e + 1)

/-- The significand and exponent nearest to a quotient of positive numbers. The significand fills
the precision unless the exponent is already the least one; rounding up may take it to the power
of two just above. -/
def nearest (format : BinaryFormat) (num den : Nat) : Nat × Int :=
  let guess : Int := num.log2 - den.log2
  let top := if atLeastPower num den guess then guess else guess - 1
  let exponent := max format.leastExponent (top - format.precision + 1)
  (inUnits num den exponent, exponent)

end BinaryFormat

/-- A binary floating-point number of 64 bits. -/
structure Binary64 where
  bits : UInt64
  deriving Repr, DecidableEq

namespace Binary64

/-- The bits below the sign. -/
def magnitude (x : Binary64) : Nat :=
  x.bits.toNat % Nat.pow 2 63

/-- Whether the sign bit is set. -/
def isNegative (x : Binary64) : Bool :=
  Nat.pow 2 63 ≤ x.bits.toNat

/-- The magnitude of the infinities; that of every NaN is larger. -/
def infiniteMagnitude : Nat :=
  0x7ff0000000000000

/-- Whether a number is a NaN. -/
def isNaN (x : Binary64) : Bool :=
  infiniteMagnitude < x.magnitude

/-- Whether a number is an infinity. -/
def isInfinite (x : Binary64) : Bool :=
  x.magnitude == infiniteMagnitude

/-- The number with a given sign and magnitude. -/
def ofMagnitude (negative : Bool) (magnitude : Nat) : Binary64 :=
  ⟨.ofNat (if negative then Nat.pow 2 63 + magnitude else magnitude)⟩

/-- The infinity of a sign. -/
def infinity (negative : Bool) : Binary64 :=
  ofMagnitude negative infiniteMagnitude

/-- A NaN of a sign. -/
def nan (negative : Bool) : Binary64 :=
  ofMagnitude negative 0x7ff8000000000000

/-- The zero of a sign. -/
def zero (negative : Bool) : Binary64 :=
  ofMagnitude negative 0

/-- The significand and exponent of a finite number. -/
def decode (x : Binary64) : Nat × Int :=
  let fraction := x.magnitude % Nat.pow 2 52
  match x.magnitude / Nat.pow 2 52 with
  | 0 => (fraction, -1074)
  | exponent + 1 => (fraction + Nat.pow 2 52, Int.ofNat exponent - 1074)

/-- The number nearest to a quotient, with a sign. -/
def ofRatio (negative : Bool) (num den : Nat) : Binary64 :=
  if num == 0 then zero negative
  else
    let (significand, exponent) := BinaryFormat.double.nearest num den
    ofMagnitude negative
      (min infiniteMagnitude ((exponent + 1074).toNat * Nat.pow 2 52 + significand))

/-- The finite number as a quotient of natural numbers, without its sign. -/
def ratio (x : Binary64) : Nat × Nat :=
  match x.decode with
  | (significand, .ofNat e) => (significand * Nat.pow 2 e, 1)
  | (significand, .negSucc e) => (significand, Nat.pow 2 (e + 1))

/-- The number of 32 bits nearest to a quotient, as a number of 64 bits. -/
def ofRatioSingle (negative : Bool) (num den : Nat) : Binary64 :=
  if num == 0 then zero negative
  else
    let (significand, exponent) := BinaryFormat.single.nearest num den
    if BinaryFormat.atLeastPower significand 1 (BinaryFormat.single.overflow - exponent) then
      infinity negative
    else match exponent with
      | .ofNat e => ofRatio negative (significand * Nat.pow 2 e) 1
      | .negSucc e => ofRatio negative significand (Nat.pow 2 (e + 1))

/-- The product of two numbers that are not NaN, rounded. Zero times infinity does not occur. -/
def scaleUp (x y : Binary64) : Binary64 :=
  if x.isInfinite || y.isInfinite then infinity (x.isNegative != y.isNegative)
  else ofRatio (x.isNegative != y.isNegative) (x.ratio.1 * y.ratio.1) (x.ratio.2 * y.ratio.2)

/-- The quotient of two finite numbers, the second of them not zero, rounded. -/
def scaleDown (x y : Binary64) : Binary64 :=
  ofRatio (x.isNegative != y.isNegative) (x.ratio.1 * y.ratio.2) (x.ratio.2 * y.ratio.1)

/-- The number with the other sign. -/
def negate (x : Binary64) : Binary64 :=
  ofMagnitude (!x.isNegative) x.magnitude

/-- An integer that orders the numbers as their values do. A NaN has none. -/
def orderKey? (x : Binary64) : Option Int :=
  if x.isNaN then none
  else if x.isNegative then some (-(x.magnitude : Int))
  else some x.magnitude

/-- How two numbers compare. A NaN compares with nothing. -/
def compare? (x y : Binary64) : Option Ordering :=
  match x.orderKey?, y.orderKey? with
  | some a, some b => some (compare a b)
  | _, _ => none

end Binary64

end FieldChecks
