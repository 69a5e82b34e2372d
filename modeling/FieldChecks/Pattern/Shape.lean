import FieldChecks.Pattern.ByteSequence
import FieldChecks.Pattern.Regex

/-!
# Shapes

The shape of a regular expression is what is left of it once everything
that its form alone shows has been put in order: characters in a row are
a word, the empty text leaves sequences, what stands in line is not
nested, a choice of characters is a set, and what all alternatives begin
with comes in front of them. Groups that keep nothing leave no trace.

Sequences and choices hold their first part and the rest. The first part
of a sequence is no sequence, and the first alternative of a choice is no
choice.
-/

namespace FieldChecks.Pattern

/-- The shape of a regular expression. -/
inductive Shape where
  | empty
  /-- The characters of a list, given by their code points, one after the other. -/
  | word (characters : List Nat)
  | one (set : RangeTable)
  | here (condition : Condition)
  | sequence (first rest : Shape)
  | choice (first rest : Shape)
  | repetition (least : Nat) (most : Option Nat) (inner : Shape)
  /-- A group that keeps what it matches. -/
  | kept (inner : Shape)
  deriving Repr, DecidableEq

namespace Shape

/-! ## Lengths and ends -/

/-- The least number of bytes that a shape takes, unless some part of it takes none at all. -/
def minBytes? : Shape → Option Nat
  | .empty | .here _ => some 0
  | .word characters => some ((characters.map byteCount).foldr (· + ·) 0)
  | .one set => set.ranges.head?.map fun range => byteCount range.1
  | .sequence first rest => do return (← first.minBytes?) + (← rest.minBytes?)
  | .choice first rest => do return min (← first.minBytes?) (← rest.minBytes?)
  | .repetition least _ inner => do return least * (← inner.minBytes?)
  | .kept inner => inner.minBytes?

/-- Whether a shape takes nothing but the empty text. -/
def isWidthless : Shape → Bool
  | .empty | .here _ => true
  | .word _ | .one _ => false
  | .sequence first rest | .choice first rest => first.isWidthless && rest.isWidthless
  | .repetition _ most inner => most.isSome && inner.isWidthless
  | .kept inner => inner.isWidthless

/-- Whether a shape plainly begins with a condition. -/
def beginsWith (condition : Condition) : Shape → Bool
  | .here found => found == condition
  | .empty | .word _ | .one _ => false
  | .sequence first rest =>
    first.beginsWith condition || (first.isWidthless && rest.beginsWith condition)
  | .choice first rest => first.beginsWith condition && rest.beginsWith condition
  | .repetition least _ inner => least != 0 && inner.beginsWith condition
  | .kept inner => inner.beginsWith condition

/-- Whether a shape plainly ends with a condition. -/
def endsWith (condition : Condition) : Shape → Bool
  | .here found => found == condition
  | .empty | .word _ | .one _ => false
  | .sequence first rest =>
    rest.endsWith condition || (rest.isWidthless && first.endsWith condition)
  | .choice first rest => first.endsWith condition && rest.endsWith condition
  | .repetition least _ inner => least != 0 && inner.endsWith condition
  | .kept inner => inner.endsWith condition

/-! ## Sequences -/

/-- A shape that is no sequence in front of another one. -/
def before : Shape → Shape → Shape
  | .empty, rest => rest
  | first, .empty => first
  | .word first, .word second => .word (first ++ second)
  | .word first, .sequence (.word second) rest => .sequence (.word (first ++ second)) rest
  | first, rest => .sequence first rest

/-- One shape after another. -/
def followedBy : Shape → Shape → Shape
  | .sequence first rest, other => before first (rest.followedBy other)
  | first, other => before first other

/-- The parts of a sequence. -/
def parts : Shape → List Shape
  | .sequence first rest => first :: rest.parts
  | shape => [shape]

/-- The shapes of a list, one after the other. -/
def sequences (shapes : List Shape) : Shape :=
  shapes.foldr followedBy .empty

/-! ## Sets and repetitions -/

/-- The shape of one character of a set. -/
def ofSet (set : RangeTable) : Shape :=
  match set.ranges with
  | [(first, last)] => if first == last then .word [first] else .one set
  | _ => .one set

/-- A shape repeated at least `least` and at most `most` times. What takes no text is not
repeated. -/
def repeated (least : Nat) (most : Option Nat) (inner : Shape) : Shape :=
  let (least, most) := if inner.isWidthless then (min least 1, some (min (most.getD 1) 1))
    else (least, most)
  if most == some 0 then .empty
  else if least == 1 && most == some 1 then inner
  else .repetition least most inner

/-! ## Choices -/

/-- The alternatives of a choice. -/
def alternatives : Shape → List Shape
  | .choice first rest => first :: rest.alternatives
  | shape => [shape]

/-- The choice between the shapes of a list as they are. -/
def anyOf : List Shape → Shape
  | [] => .one .empty
  | [shape] => shape
  | shape :: rest => .choice shape (anyOf rest)

/-- The characters of a word. -/
def word? : Shape → Option (List Nat)
  | .word characters => some characters
  | _ => none

/-- The character that a shape is. -/
def character? : Shape → Option Nat
  | .word [character] => some character
  | _ => none

/-- The set of a shape that is one. -/
def set? : Shape → Option RangeTable
  | .one set => some set
  | _ => none

/-- Whether a shape keeps what it matches. -/
def keeps : Shape → Bool
  | .empty | .word _ | .one _ | .here _ => false
  | .sequence first rest | .choice first rest => first.keeps || rest.keeps
  | .repetition _ _ inner => inner.keeps
  | .kept _ => true

/-- The parts with which two sequences begin. Parts that keep what they match are never alike. -/
def sharedParts : List Shape → List Shape → List Shape
  | a :: as, b :: bs => if a == b && !a.keeps then a :: sharedParts as bs else []
  | _, _ => []

/-- The parts with which all shapes of a list begin, unless one of them is no sequence. -/
def commonParts : List Shape → List Shape
  | [] => []
  | shapes@(first :: rest) =>
    if shapes.all fun shape => shape.parts.length ≥ 2 then
      rest.foldl (fun common shape => sharedParts common shape.parts) first.parts
    else []

/-- The size of a shape as a tree. -/
def weight : Shape → Nat
  | .empty | .word _ | .one _ | .here _ => 1
  | .sequence first rest | .choice first rest => first.weight + rest.weight + 1
  | .repetition _ _ inner | .kept inner => inner.weight + 1

/-- The choice between the shapes of a list. -/
def choicesWithin : (fuel : Nat) → List Shape → Shape
  | 0, shapes => anyOf shapes
  | fuel + 1, shapes =>
    let shapes := shapes.flatMap alternatives
    match shapes with
    | [] | [_] => anyOf shapes
    | _ =>
      match shapes.mapM character?, shapes.mapM set? with
      | some characters, _ => ofSet (.ofCodePoints characters)
      | none, some sets => ofSet (.unions sets)
      | none, none =>
        match commonParts shapes with
        | [] => anyOf shapes
        | common =>
          let rests := shapes.map fun shape => sequences (shape.parts.drop common.length)
          (sequences common).followedBy (choicesWithin fuel rests)

/-- The choice between the shapes of a list. -/
def choices : List Shape → Shape
  | [shape] => shape
  | shapes => choicesWithin ((shapes.map weight).foldr (· + ·) 0) shapes

end Shape

/-- The shapes of the alternatives of an expression, which may be a single one. -/
def Regex.branches : Regex → List Shape
  | .empty => [.empty]
  | .one set => [.ofSet set]
  | .here condition => [.here condition]
  | .sequence first second =>
    [(Shape.choices first.branches).followedBy (Shape.choices second.branches)]
  | .choice first second => Shape.choices first.branches :: second.branches
  | .repetition least most inner => [.repeated least most (Shape.choices inner.branches)]
  | .group keeps inner =>
    let shape := Shape.choices inner.branches
    [if keeps then .kept shape else shape]

/-- The shape of an expression. -/
def Regex.shape (regex : Regex) : Shape :=
  Shape.choices regex.branches

end FieldChecks.Pattern
