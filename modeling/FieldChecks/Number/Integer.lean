import FieldChecks.Text.Ascii

/-!
# Integers in text

An integer is read from an optional sign and decimal digits, within the
range of its width. Digits are taken from left to right, and the first
thing that goes wrong is the fault reported: a character that is no
digit, or a digit that carries the number out of range. Unsigned
integers have no minus sign; for them it is a character that is no digit.
-/

namespace FieldChecks

/-- Why a text is not an integer of some width. -/
inductive IntegerFault where
  | empty
  | invalidDigit
  | tooLarge
  | tooSmall
  deriving Repr, DecidableEq

/-- The wording of an integer fault. -/
def IntegerFault.message : IntegerFault → String
  | .empty => "cannot parse integer from empty string"
  | .invalidDigit => "invalid digit found in string"
  | .tooLarge => "number too large to fit in target type"
  | .tooSmall => "number too small to fit in target type"

namespace Integer

/-- The number that decimal digits continue from `value`, as long as it stays within `limit`. -/
def readOn (limit : Nat) (beyond : IntegerFault) : (value : Nat) → List Char →
    Except IntegerFault Nat
  | value, [] => .ok value
  | value, c :: cs => match digit? 10 c with
    | none => .error .invalidDigit
    | some d =>
      if limit < 10 * value + d then .error beyond else readOn limit beyond (10 * value + d) cs

/-- The number that one or more decimal digits write, within `limit`. -/
def readDigits (limit : Nat) (beyond : IntegerFault) (cs : List Char) : Except IntegerFault Nat :=
  if cs.isEmpty then .error .invalidDigit else readOn limit beyond 0 cs

/-- The signed integer of 64 bits that a text writes. -/
def readSigned (text : String) : Except IntegerFault Int64 :=
  match text.toList with
  | [] => .error .empty
  | '+' :: cs => (readDigits (Nat.pow 2 63 - 1) .tooLarge cs).map fun n => .ofInt n
  | '-' :: cs => (readDigits (Nat.pow 2 63) .tooSmall cs).map fun n => .ofInt (-n)
  | cs => (readDigits (Nat.pow 2 63 - 1) .tooLarge cs).map fun n => .ofInt n

/-- The unsigned integer of 64 bits that a text writes. -/
def readUnsigned (text : String) : Except IntegerFault UInt64 :=
  match text.toList with
  | [] => .error .empty
  | '+' :: cs => (readDigits (Nat.pow 2 64 - 1) .tooLarge cs).map .ofNat
  | cs => (readDigits (Nat.pow 2 64 - 1) .tooLarge cs).map .ofNat

/-- The decimal text of an integer. -/
def text (n : Int) : String :=
  match n with
  | .ofNat n => n.repr
  | .negSucc n => "-" ++ (n + 1).repr

end Integer

end FieldChecks
