import FieldChecks.Number.Shortest
import FieldChecks.Text.Ascii

/-!
# Floating-point numbers in text

Reading takes an optional sign and either a name (`inf`, `infinity`,
`nan`, in any letter case) or decimal digits with an optional point and
an optional power of ten; at least one digit stands before or after the
point, and the result is the nearest number.

There are three ways of writing. A `FloatStyle` says which numbers are
written with all their places and which with a power of ten, always with
the shortest digits that read back; `rounded` writes the nearest integer
with all its digits, a half going to the even one.
-/

namespace FieldChecks

/-- Why a text is not a floating-point number. -/
inductive FloatFault where
  | empty
  | invalid
  deriving Repr, DecidableEq

/-- The wording of a fault. -/
def FloatFault.message : FloatFault → String
  | .empty => "cannot parse float from empty string"
  | .invalid => "invalid float literal"

namespace FloatText

/-- What a text of a floating-point number says. -/
inductive Reading where
  | infinity
  | nan
  | decimal (value : Decimal)
  deriving Repr, DecidableEq

/-- The digits at the start of a text, and what follows them. -/
def digitRun (cs : List Char) : List Char × List Char :=
  cs.span isAsciiDigit

/-- The number that decimal digits write. -/
def digitsValue (cs : List Char) : Nat :=
  Nat.ofDigitChars 10 cs 0

/-- The power of ten after the digits: nothing, or `e` with an optional sign and digits. -/
def readExponent? : List Char → Option Int
  | [] => some 0
  | e :: cs =>
    if asciiLower e != 'e' then none
    else
      let (negative, digits) := match cs with
        | '-' :: rest => (true, rest)
        | '+' :: rest => (false, rest)
        | rest => (false, rest)
      if digits.isEmpty || !digits.all isAsciiDigit then none
      else some (if negative then -(digitsValue digits : Int) else digitsValue digits)

/-- The digits, point and power of ten of a number without a sign. -/
def readDecimal? (cs : List Char) : Option Decimal := do
  let (whole, rest) := digitRun cs
  let (fraction, rest) := match rest with
    | '.' :: rest => digitRun rest
    | rest => ([], rest)
  guard !(whole.isEmpty && fraction.isEmpty)
  let exponent ← readExponent? rest
  return ⟨digitsValue (whole ++ fraction), exponent - fraction.length⟩

/-- A number without a sign. -/
def readMagnitude? (cs : List Char) : Option Reading :=
  let name := String.ofList (cs.map asciiLower)
  if name == "inf" || name == "infinity" then some .infinity
  else if name == "nan" then some .nan
  else (readDecimal? cs).map .decimal

/-- The sign and magnitude that a text writes. -/
def read (text : String) : Except FloatFault (Bool × Reading) :=
  let (negative, magnitude) := match text.toList with
    | '-' :: cs => (true, cs)
    | '+' :: cs => (false, cs)
    | cs => (false, cs)
  if text.isEmpty then .error .empty
  else match readMagnitude? magnitude with
    | none => .error .invalid
    | some reading => .ok (negative, reading)

/-- The number of a reading, where `nearest` rounds a quotient. Powers of ten far outside the range
are not computed. -/
def Reading.value (nearest : Bool → Nat → Nat → Binary64) (negative : Bool) : Reading → Binary64
  | .infinity => .infinity negative
  | .nan => .nan negative
  | .decimal d =>
    if d.digits == 0 || d.point < -400 then .zero negative
    else if 400 < d.point then .infinity negative
    else match d.exponent with
      | .ofNat e => nearest negative (d.digits * Nat.pow 10 e) 1
      | .negSucc e => nearest negative d.digits (Nat.pow 10 (e + 1))

end FloatText

namespace Binary64

/-- The number of 64 bits nearest to what a text writes. -/
def read (text : String) : Except FloatFault Binary64 :=
  (FloatText.read text).map fun (negative, reading) => reading.value ofRatio negative

/-- The number of 32 bits nearest to what a text writes, as one of 64 bits. -/
def readSingle (text : String) : Except FloatFault Binary64 :=
  (FloatText.read text).map fun (negative, reading) => reading.value ofRatioSingle negative

end Binary64

/-- How floating-point numbers are written: the numbers with at least `leastPoint` and at most
`mostPoint` digits before the point are written with all their places, a point and a zero follow
a whole number if `wholePoint`, a plus sign stands before a power of ten that is not negative if
`powerPlus`, and `tie` decides between two shortest numbers that are equally near. -/
structure FloatStyle where
  leastPoint : Option Int
  mostPoint : Option Int
  wholePoint : Bool
  powerPlus : Bool
  tie : Tie

namespace FloatStyle

/-- All places, and nothing behind a whole number. -/
def plain : FloatStyle := ⟨none, none, false, false, .up⟩

/-- A power of ten below `0.0001` and from ten quadrillions on. -/
def described : FloatStyle := ⟨some (-3), some 16, true, false, .up⟩

/-- A power of ten below `0.00001` and from ten quadrillions on, the latter with a plus sign; of two
equally near numbers the one whose last digit is even. -/
def inJson : FloatStyle := ⟨some (-4), some 16, true, true, .even⟩

/-- Whether a number with `point` digits before its point is written with all its places. -/
def isPositional (style : FloatStyle) (point : Int) : Bool :=
  style.leastPoint.all (· ≤ point) && style.mostPoint.all (point ≤ ·)

/-- A positive decimal number with all its places. -/
def positional (style : FloatStyle) (d : Decimal) : List Char :=
  let digits := d.digitChars
  match d.exponent with
  | .ofNat e => digits ++ List.replicate e '0' ++ if style.wholePoint then ['.', '0'] else []
  | .negSucc _ => match d.point with
    | .ofNat (p + 1) => digits.take (p + 1) ++ '.' :: digits.drop (p + 1)
    | .ofNat 0 => '0' :: '.' :: digits
    | .negSucc p => '0' :: '.' :: (List.replicate (p + 1) '0' ++ digits)

/-- A positive decimal number with one digit before the point and a power of ten. -/
def scientific (style : FloatStyle) (d : Decimal) : List Char :=
  let power := 'e' :: match d.point - 1 with
    | .ofNat n => if style.powerPlus then '+' :: n.repr.toList else n.repr.toList
    | .negSucc n => '-' :: (n + 1).repr.toList
  match d.digitChars with
  | first :: second :: rest => first :: '.' :: second :: rest ++ power
  | digits => digits ++ power

/-- A number written in a style. -/
def render (style : FloatStyle) (x : Binary64) : String :=
  if x.isNaN then "NaN"
  else
    let sign := if x.isNegative then "-" else ""
    if x.isInfinite then sign ++ "inf"
    else if x.magnitude == 0 then sign ++ if style.wholePoint then "0.0" else "0"
    else
      let d := x.shortest style.tie
      sign ++ String.ofList
        (if style.isPositional d.point then style.positional d else style.scientific d)

end FloatStyle

/-- A number rounded to an integer, with all its digits. -/
def Binary64.rounded (x : Binary64) : String :=
  if x.isNaN then "NaN"
  else
    let sign := if x.isNegative then "-" else ""
    if x.isInfinite then sign ++ "inf"
    else sign ++ (roundHalfEven x.ratio.1 x.ratio.2).repr

end FieldChecks
