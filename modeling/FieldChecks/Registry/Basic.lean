import FieldChecks.Failure
import FieldChecks.Registry.Table
import FieldChecks.Value.Basic

/-!
# The registry

A checker judges a value; a maker makes a checker from an argument. A
registry holds checkers and makers by name. A checker that a maker has
made is kept under the text of the segment that called for it, and is
found there from then on: `materialize` calls the maker of a segment at
most once with success.

The registry also keeps an account of the calls to its makers.
-/

namespace FieldChecks

/-- A judgement of values. -/
abbrev Checker := Value → Except CheckError Unit

/-- A maker of checkers from arguments. -/
structure Maker where
  make : String → Except CheckError Checker
  /-- Whether the maker comes with the library. -/
  isBuiltIn : Bool

/-- A call to a maker: the segment that asked for it, if one did, the maker's origin, and whether
it accepted the argument. -/
structure Making where
  segment : Option String
  byBuiltIn : Bool
  accepted : Bool
  deriving Repr, DecidableEq

/-- Checkers and makers by name, and the calls to makers, the last one first. -/
structure Registry where
  checkers : Table Checker
  makers : Table Maker
  makings : List Making

namespace Registry

/-- The registry of nothing. -/
def empty : Registry := ⟨.empty, .empty, []⟩

/-- The checker of a name. -/
def checker? (registry : Registry) (name : String) : Option Checker :=
  registry.checkers.get? name

/-- The maker of a name. -/
def maker? (registry : Registry) (name : String) : Option Maker :=
  registry.makers.get? name

/-- The registry with a checker under a name, in place of any other there. -/
def register (registry : Registry) (name : String) (checker : Checker) : Registry :=
  { registry with checkers := registry.checkers.insert name checker }

/-- The registry with a maker under a name, in place of any other there. -/
def registerMaker (registry : Registry) (name : String) (maker : Maker) : Registry :=
  { registry with makers := registry.makers.insert name maker }

/-- Whether there are neither checkers nor makers. -/
def isEmpty (registry : Registry) : Bool :=
  registry.checkers.isEmpty && registry.makers.isEmpty

/-- The registry with a call to a maker on its account. -/
def record (registry : Registry) (segment : Option String) (maker : Maker) (accepted : Bool) :
    Registry :=
  { registry with makings := ⟨segment, maker.isBuiltIn, accepted⟩ :: registry.makings }

/-- The checker that a maker makes for a segment, kept under the segment's text. -/
def makeChecker (registry : Registry) (segment : String) (maker : Maker) (argument : String) :
    Except Failure Checker × Registry :=
  match maker.make argument with
  | .error cause => (.error (.makerRejected segment cause), registry.record segment maker false)
  | .ok checker => (.ok checker, (registry.record segment maker true).register segment checker)

/-- The checker of a segment that calls a maker with an argument: the one kept under the segment's
text, or else a new one. -/
def materialize (registry : Registry) (segment maker argument : String) :
    Except Failure Checker × Registry :=
  match registry.checker? segment with
  | some checker => (.ok checker, registry)
  | none => match registry.maker? maker with
    | none => (.error (.unknownChecker segment), registry)
    | some found => registry.makeChecker segment found argument

/-- What a maker makes from an argument, which is not kept; none without a maker of the name. -/
def makeOnce (registry : Registry) (maker argument : String) :
    Option (Except CheckError Checker) × Registry :=
  match registry.maker? maker with
  | none => (none, registry)
  | some found =>
    let made := found.make argument
    (some made, registry.record none found made.isOk)

/-- How often a maker that does not come with the library was called. -/
def customMakings (registry : Registry) : Nat :=
  registry.makings.countP (!·.byBuiltIn)

/-- The description of a registry: the names that it holds. -/
def describe (registry : Registry) : String :=
  "CheckerRegistry \x7b checkers: " ++ quotedList registry.checkers.names ++ ", makers: " ++
    quotedList registry.makers.names ++ " \x7d"

end Registry

end FieldChecks
