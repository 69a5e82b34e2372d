import FieldChecks.Checks.Catalog

/-!
# Checks to build with

Simple checkers and makers that a program can register under names of its
own: some that always give the same answer, some that show what they were
given, and some that test a property.
-/

namespace FieldChecks

/-- A checker that a program can register. -/
inductive CustomChecker where
  /-- Accepts every value. -/
  | accept
  /-- Reports every value as missing. -/
  | missing
  /-- Rejects every value with a message. -/
  | reject (message : String)
  /-- Rejects every value with its description. -/
  | echo
  /-- Accepts even signed integers. -/
  | even
  /-- Accepts texts without spaces. -/
  | noSpaces
  /-- Accepts texts that match a pattern. -/
  | pattern (pattern : String)
  /-- Accepts texts that are one of the choices that bars separate. -/
  | oneOf (choices : String)
  deriving Repr, DecidableEq

/-- The checker itself, unless its pattern cannot be read. -/
def CustomChecker.checker : CustomChecker → Except CheckError Checker
  | .accept => .ok fun _ => .ok ()
  | .missing => .ok fun _ => .error .missing
  | .reject message => .ok fun _ => .error (.invalid message)
  | .echo => .ok fun value => .error (.invalid value.describe)
  | .even => .ok fun
    | .int n => if n % 2 == 0 then .ok () else .error (.invalid "must be even")
    | _ => .error (.invalid "must be even")
  | .noSpaces => .ok fun value => do
    let text ← value.text
    if text.contains ' ' then .error (.invalid (quoted text ++ " contains spaces")) else .ok ()
  | .pattern text => Pattern.checker text
  | .oneOf choices => Pattern.oneOf choices

/-- A maker that a program can register. -/
inductive CustomMaker where
  /-- Refuses every argument with a message. -/
  | reject (message : String)
  /-- Refuses every argument as missing. -/
  | missing
  /-- Refuses every argument and says so. -/
  | strict
  /-- Makes a checker that rejects every value with the argument and the value's description. -/
  | echo
  /-- Makes a checker of texts that start with the argument. -/
  | startsWith
  /-- Makes a checker of texts of a length in bytes. -/
  | length
  /-- Makes what a built-in maker makes. -/
  | builtIn (name : String)
  deriving Repr, DecidableEq

/-- The checker of texts that start with a text. -/
def startCheck (start : String) : Checker := fun value => do
  let text ← value.text
  if (Chars.after? start.toList text.toList).isSome then .ok ()
  else .error (.invalid ("does not start with " ++ quoted start))

/-- The checker of texts of a length in bytes. -/
def lengthCheck (length : Nat) : Checker := fun value => do
  let text ← value.text
  if text.utf8ByteSize = length then .ok ()
  else .error (.invalid ("length is not " ++ length.repr))

/-- The checker that a maker makes from an argument. -/
def CustomMaker.make : CustomMaker → String → Except CheckError Checker
  | .reject message, _ => .error (.invalid message)
  | .missing, _ => .error .missing
  | .strict, argument => .error (.argument argument "not accepted")
  | .echo, argument =>
    .ok fun value => .error (.invalid (argument ++ "|" ++ value.describe))
  | .startsWith, argument => .ok (startCheck argument)
  | .length, argument => match Integer.readUnsigned argument with
    | .error fault => .error (.argument argument fault.message)
    | .ok n => .ok (lengthCheck n.toNat)
  | .builtIn name, argument => match builtInMakers.lookup name with
    | some found => found.make argument
    | none => .error (.invalid ("no maker named " ++ name))

/-- The maker as it is registered. -/
def CustomMaker.maker (maker : CustomMaker) : Maker where
  make := maker.make
  isBuiltIn := false

end FieldChecks
