import FieldChecks.Config.Basic
import FieldChecks.Registry.Basic
import FieldChecks.Text.Split

/-!
# Check lists

A check list is a text of segments, with a separator between two of
them. Blanks around a segment do not count, nor do segments without other
characters. A segment is the name of a checker, or else the name of a
maker and an argument, with one argument separator between them. Segments
are bound to checkers from left to right, up to the first one that cannot
be.
-/

namespace FieldChecks

/-- A checker and the name under which its failures are reported. -/
structure BoundCheck where
  name : String
  checker : Checker

/-- The description of a bound check. -/
def BoundCheck.describe (check : BoundCheck) : String :=
  "BoundCheck \x7b name: " ++ quoted check.name ++ " \x7d"

namespace CheckList

/-- The segments of a check list. -/
def segments (separator list : String) : List String :=
  ((Text.split separator list).map Text.trim).filter (!·.isEmpty)

/-- The name under which the check of a segment is reported: what stands before the first argument
separator. -/
def displayName (separator segment : String) : String :=
  match Text.cut? separator segment with
  | some (name, _) => name
  | none => segment

/-- The maker and the argument of a segment: both not empty, and one separator in all. -/
def invocation? (separator segment : String) : Option (String × String) :=
  match Text.cut? separator segment with
  | none => none
  | some (maker, argument) =>
    if maker.isEmpty || argument.isEmpty || Text.occurs separator argument then none
    else some (maker, argument)

/-- Binds a segment to a checker. -/
def bindSegment (separator segment : String) (registry : Registry) :
    Except Failure BoundCheck × Registry :=
  match registry.checker? segment with
  | some checker => (.ok ⟨displayName separator segment, checker⟩, registry)
  | none => match invocation? separator segment with
    | none => (.error (.unknownChecker segment), registry)
    | some (maker, argument) => match registry.materialize segment maker argument with
      | (.error failure, registry) => (.error failure, registry)
      | (.ok checker, registry) => (.ok ⟨maker, checker⟩, registry)

/-- Binds segments to checkers, one after the other. -/
def bindAll (separator : String) : List String → Registry →
    Except Failure (List BoundCheck) × Registry
  | [], registry => (.ok [], registry)
  | segment :: segments, registry => match bindSegment separator segment registry with
    | (.error failure, registry) => (.error failure, registry)
    | (.ok check, registry) => match bindAll separator segments registry with
      | (.error failure, registry) => (.error failure, registry)
      | (.ok checks, registry) => (.ok (check :: checks), registry)

/-- The checks that a list asks for. -/
def read (config : Config) (list : String) (registry : Registry) :
    Except Failure (List BoundCheck) × Registry :=
  bindAll config.argumentSeparator (segments config.checkSeparator list) registry

end CheckList

end FieldChecks
