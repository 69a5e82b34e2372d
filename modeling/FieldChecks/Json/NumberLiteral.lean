import FieldChecks.Json.Fault
import FieldChecks.Text.Ascii

/-!
# Numbers in JSON

A number without point and exponent is an integer as long as it fits 64
bits, with or without sign; zero with a minus sign is not an integer. Any
other number is a floating-point number: its digits make a significand,
of which only what fits 64 bits is kept, and that is scaled by a power of
ten. Significand and power are rounded each, and so is their product or
quotient. A number that gets too large is refused.
-/

namespace FieldChecks.Json

namespace NumberLiteral

/-- The digits that continue a significand as long as it fits 64 bits: the significand with them,
how many there are, and what follows. -/
def takeDigits (significand : Nat) : List Char → Nat × Nat × List Char
  | [] => (significand, 0, [])
  | c :: cs => match digit? 10 c with
    | none => (significand, 0, c :: cs)
    | some d =>
      if Nat.pow 2 64 ≤ 10 * significand + d then (significand, 0, c :: cs)
      else
        let (total, count, rest) := takeDigits (10 * significand + d) cs
        (total, count + 1, rest)

/-- How many digits there are, and what follows them. -/
def countDigits (cs : List Char) : Nat × List Char :=
  ((cs.takeWhile isAsciiDigit).length, cs.dropWhile isAsciiDigit)

/-- A power of ten. -/
def tenPower (n : Nat) : Binary64 :=
  .ofRatio false (Nat.pow 10 n) 1

/-- A number divided by a power of ten, in steps that are in range. -/
def divideByTens (x : Binary64) (n : Nat) : Binary64 :=
  if h : n ≤ 308 then x.scaleDown (tenPower n)
  else if x.magnitude == 0 then x
  else divideByTens (x.scaleDown (tenPower 308)) (n - 308)
termination_by n
decreasing_by omega

/-- A number multiplied by a power of ten, unless that is out of range. -/
def scale? (x : Binary64) : Int → Option Binary64
  | .ofNat n =>
    if x.magnitude == 0 then some x
    else if 308 < n then none
    else
      let product := x.scaleUp (tenPower n)
      if product.isInfinite then none else some product
  | .negSucc n => some (divideByTens x (n + 1))

/-- The number of a sign, a significand and a power of ten, all its characters having been
read. -/
def assemble (negative : Bool) (significand : Nat) (exponent : Int) (rest : List Char) :
    Except Stop (Number × List Char) :=
  match scale? (.ofRatio false significand 1) exponent with
  | none => .error (stopHere .numberOutOfRange rest)
  | some x => .ok (.float (if negative then x.negate else x), rest)

/-- The digits that continue an exponent as long as it fits 31 bits: the exponent and what
follows, or what follows the digit that takes it beyond. -/
def takeExponent (exponent : Nat) : List Char → Except (List Char) (Nat × List Char)
  | [] => .ok (exponent, [])
  | c :: cs => match digit? 10 c with
    | none => .ok (exponent, c :: cs)
    | some d =>
      if Nat.pow 2 31 ≤ 10 * exponent + d then .error cs else takeExponent (10 * exponent + d) cs

/-- The exponent behind its letter and the whole number with it. -/
def readExponent (negative : Bool) (significand : Nat) (exponent : Int) (cs : List Char) :
    Except Stop (Number × List Char) :=
  let (down, cs) := match cs with
    | '+' :: cs => (false, cs)
    | '-' :: cs => (true, cs)
    | cs => (false, cs)
  match cs with
  | [] => .error (stopHere .endInValue [])
  | c :: _ =>
    if !isAsciiDigit c then .error (stopAtNext .invalidNumber cs)
    else match takeExponent 0 cs with
      | .ok (power, rest) =>
        assemble negative significand (exponent + if down then -(power : Int) else power) rest
      | .error rest =>
        if significand != 0 && !down then .error (stopHere .numberOutOfRange rest)
        else .ok (.float (.zero negative), (countDigits rest).2)

/-- The exponent, if there is one, and the whole number with it. -/
def readScaled (negative : Bool) (significand : Nat) (exponent : Int) (cs : List Char) :
    Except Stop (Number × List Char) :=
  match cs with
  | 'e' :: rest | 'E' :: rest => readExponent negative significand exponent rest
  | rest => assemble negative significand exponent rest

/-- The digits behind the point and the whole number with them. -/
def readFraction (negative : Bool) (significand : Nat) (exponent : Int) (cs : List Char) :
    Except Stop (Number × List Char) :=
  let (total, count, rest) := takeDigits significand cs
  let (ignored, rest) := countDigits rest
  if count + ignored == 0 then
    .error (if rest.isEmpty then stopHere .endInValue [] else stopAtNext .invalidNumber rest)
  else readScaled negative total (exponent - count) rest

/-- An integer, if it fits. -/
def integerOf (negative : Bool) (n : Nat) : Number :=
  if !negative then .integer n
  else if 0 < n ∧ n ≤ Nat.pow 2 63 then .integer (-(n : Int))
  else .float (.ofRatio true n 1)

/-- The number whose sign has been read, and what follows it. -/
def read (negative : Bool) (cs : List Char) : Except Stop (Number × List Char) :=
  match cs with
  | [] => .error (stopHere .endInValue [])
  | first :: second =>
    if !isAsciiDigit first then .error (stopAtNext .invalidNumber cs)
    else if first == '0' && second.head?.any isAsciiDigit then
      .error (stopAtNext .invalidNumber second)
    else
      let (significand, _, rest) := takeDigits 0 cs
      let (ignored, rest) := countDigits rest
      match rest with
      | '.' :: rest => readFraction negative significand ignored rest
      | rest =>
        if ignored == 0 && !(rest.head?.any fun c => c == 'e' || c == 'E') then
          .ok (integerOf negative significand, rest)
        else readScaled negative significand ignored rest

end NumberLiteral

end FieldChecks.Json
