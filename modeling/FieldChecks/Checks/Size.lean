import FieldChecks.Registry.Basic
import FieldChecks.Text.Blank
import FieldChecks.Value.Description

/-!
# Checks of size

A size check compares a value with a bound: numbers by what they are,
texts and sequences by their length, a text's length being counted in
bytes. The bound is read for the kind of the value that is checked, and
lengths are compared with integers that may be negative. An absent value
passes.
-/

namespace FieldChecks.Size

/-- How a size has to stand to the bound. -/
inductive Relation where
  | atMost
  | atLeast
  | equal
  | notEqual
  deriving Repr, DecidableEq

namespace Relation

/-- How a size that is wrong stands to the bound. -/
def violation : Relation → String
  | .atMost => "more than"
  | .atLeast => "less than"
  | .equal => "not equal to"
  | .notEqual => "equal to"

/-- Whether a size is right, given how it compares with the bound. What compares with nothing is
only different. -/
def holds : Relation → Option Ordering → Bool
  | .atMost, some order => order.isLE
  | .atLeast, some order => order.isGE
  | .equal, some order => order.isEq
  | .notEqual, some order => order.isNe
  | .notEqual, none => true
  | _, none => false

end Relation

/-- The judgement of a size, given how it compares with the bound. -/
def judge (relation : Relation) (order : Option Ordering) (size bound : String) :
    Except CheckError Unit :=
  if relation.holds order then .ok ()
  else .error (.invalid (size ++ " is " ++ relation.violation ++ " " ++ bound))

/-- The bound that an argument gives, where blanks around it do not count. -/
def boundOf {α φ : Type} (read : String → Except φ α) (message : φ → String) (argument : String) :
    Except CheckError α :=
  match read (Text.trim argument) with
  | .ok bound => .ok bound
  | .error fault => .error (.argument argument (message fault))

/-- Compares an integer with a signed bound. -/
def compareSigned (relation : Relation) (argument label : String) (n : Int) :
    Except CheckError Unit := do
  let bound ← boundOf Integer.readSigned IntegerFault.message argument
  judge relation (some (compare n bound.toInt)) (label ++ Integer.text n) (Integer.text bound.toInt)

/-- Compares a natural number with an unsigned bound. -/
def compareUnsigned (relation : Relation) (argument : String) (n : Nat) :
    Except CheckError Unit := do
  let bound ← boundOf Integer.readUnsigned IntegerFault.message argument
  judge relation (some (compare n bound.toNat)) n.repr bound.toNat.repr

/-- Compares a floating-point number with a bound. -/
def compareFloat (relation : Relation) (argument : String) (x : Binary64) :
    Except CheckError Unit := do
  let bound ← boundOf Binary64.read FloatFault.message argument
  judge relation (x.compare? bound) x.rounded bound.rounded

/-- The largest length that is told apart from larger ones. -/
def lengthLimit : Nat := Nat.pow 2 63 - 1

/-- Compares a length with a bound. -/
def compareLength (relation : Relation) (argument : String) (length : Nat) :
    Except CheckError Unit :=
  compareSigned relation argument "len " (min length lengthLimit)

/-- The check that a size stands in a relation to the bound that an argument gives. -/
def check (relation : Relation) (argument : String) : Checker
  | .absent => .ok ()
  | .int n => compareSigned relation argument "" n.toInt
  | .uint n => compareUnsigned relation argument n.toNat
  | .float x => compareFloat relation argument x
  | .string s => compareLength relation argument s.utf8ByteSize
  | .sequence length => compareLength relation argument length
  | value => .error (.unsupportedKind value.kind)

/-- The maker of the checks of a relation. It accepts every argument. -/
def maker (relation : Relation) : Maker where
  make argument := .ok (check relation argument)
  isBuiltIn := true

end FieldChecks.Size
