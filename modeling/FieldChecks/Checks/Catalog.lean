import FieldChecks.Checks.Format
import FieldChecks.Checks.Size

/-!
# The built-in checks

The checkers and makers that come with the library, and the registry that
holds them.
-/

namespace FieldChecks

/-- The check that a value is not zero. -/
def required : Checker := fun value =>
  if value.isZero then .error .missing else .ok ()

/-- The built-in checkers. -/
def builtInCheckers : List (String × Checker) := [
  ("required", required),
  ("email", Format.email),
  ("url", Format.url),
  ("ip", Format.ip),
  ("ipv4", Format.ipv4),
  ("ipv6", Format.ipv6),
  ("mac", Format.mac),
  ("domain", Pattern.fixed Format.domainPattern),
  ("uuid", Pattern.fixed Format.uuidPattern),
  ("mongoid", Pattern.fixed Format.mongoidPattern),
  ("ssn", Pattern.fixed Format.ssnPattern),
  ("isbn", Format.isbn),
  ("npi", Format.npi),
  ("creditcard", Format.creditcard),
  ("luhn", Format.luhn),
  ("alpha", Pattern.fixed Format.alphaPattern),
  ("alphanum", Pattern.fixed Format.alphanumPattern),
  ("numeric", Pattern.fixed Format.numericPattern),
  ("hexadecimal", Pattern.fixed Format.hexadecimalPattern),
  ("base64", Pattern.fixed Format.base64Pattern),
  ("ascii", Format.ascii),
  ("lowercase", Format.lowercase),
  ("uppercase", Format.uppercase),
  ("boolean", Format.boolean),
  ("json", Format.json),
  ("rgb", Pattern.fixed Format.rgbPattern),
  ("rgba", Pattern.fixed Format.rgbaPattern)]

/-- The built-in makers. -/
def builtInMakers : List (String × Maker) := [
  ("eq", Size.maker .equal),
  ("ne", Size.maker .notEqual),
  ("min", Size.maker .atLeast),
  ("max", Size.maker .atMost),
  ("regex", ⟨Pattern.checker, true⟩),
  ("one_of", ⟨Pattern.oneOf, true⟩)]

/-- A registry with the built-in checkers and makers, in place of any others of their names. -/
def Registry.withBuiltIns (registry : Registry) : Registry :=
  let registry := builtInCheckers.foldl (fun registry (name, checker) =>
    registry.register name checker) registry
  builtInMakers.foldl (fun registry (name, maker) => registry.registerMaker name maker) registry

/-- The registry of the built-in checkers and makers. -/
def Registry.builtIn : Registry :=
  Registry.empty.withBuiltIns

end FieldChecks
