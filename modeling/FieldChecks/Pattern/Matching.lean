import FieldChecks.Pattern.Regex

/-!
# Matching

A place in a text of `n` characters is a number from `0` to `n`. A set of
places is held as the bits of a natural number. An expression takes every
place to the places where a match that begins there may end, so it takes
a set of places to a set of places: a set of characters keeps the places
in front of one of its characters and moves them on by one, a condition
keeps the places where it holds. A repetition without a bound is done
when it finds no further place; with `n + 1` places that takes at most
`n + 1` rounds.
-/

namespace FieldChecks.Pattern

/-- The bits of the booleans of a list, the first one lowest. -/
def bitsOf : List Bool → Nat
  | [] => 0
  | b :: bs => 2 * bitsOf bs + b.toNat

/-- For every place of a text, the result of a test of the characters before and after it. -/
def atPlaces (test : Option Char → Option Char → Bool) (before : Option Char) :
    List Char → List Bool
  | [] => [test before none]
  | c :: cs => test before (some c) :: atPlaces test (some c) cs

/-- An expression laid over a text: sets of characters and conditions have become the sets of
places where they apply, and every repetition has a bound on its further rounds. -/
inductive Overlay where
  | empty
  | one (fits : Nat)
  | here (fits : Nat)
  | sequence (first second : Overlay)
  | choice (first second : Overlay)
  | repetition (least further : Nat) (inner : Overlay)

/-- An expression laid over a text. -/
def Regex.over (text : List Char) : Regex → Overlay
  | .empty => .empty
  | .one set => .one (bitsOf (text.map set.contains))
  | .here condition => .here (bitsOf (atPlaces condition.holds none text))
  | .sequence first second => .sequence (first.over text) (second.over text)
  | .choice first second => .choice (first.over text) (second.over text)
  | .repetition least most inner =>
    let further := match most with
      | some most => most - least
      | none => text.length + 1
    .repetition least further (inner.over text)
  | .group _ inner => inner.over text

/-- A function applied `times` times, or until it changes nothing. -/
def iterated (f : Nat → Nat) : (times : Nat) → Nat → Nat
  | 0, places => places
  | times + 1, places =>
    let next := f places
    if next == places then places else iterated f times next

/-- The places that a function reaches in at most `times` rounds, or until it finds no new one. -/
def gathered (f : Nat → Nat) : (times : Nat) → Nat → Nat
  | 0, places => places
  | times + 1, places =>
    let next := places ||| f places
    if next == places then places else gathered f times next

/-- The places where a match may end that begins at one of the given places. -/
def Overlay.run : Overlay → Nat → Nat
  | .empty, places => places
  | .one fits, places => (places &&& fits) <<< 1
  | .here fits, places => places &&& fits
  | .sequence first second, places => second.run (first.run places)
  | .choice first second, places => first.run places ||| second.run places
  | .repetition least further inner, places =>
    gathered inner.run further (iterated inner.run least places)

/-- Whether an expression matches some part of a text. -/
def Regex.matchesIn (regex : Regex) (text : String) : Bool :=
  let chars := text.toList
  (regex.over chars).run (Nat.pow 2 (chars.length + 1) - 1) != 0

end FieldChecks.Pattern
