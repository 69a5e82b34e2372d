import FieldChecks.Pattern.Draft
import FieldChecks.Pattern.Shape

/-!
# Sizes of patterns

An expression is looked for by two automata over bytes, one that reads
forward and finds where matches end, and one that reads backward and
finds where they begin. An expression is too large if one of them is.

The parts of an automaton are laid out in the order in which it passes
them. Each has one way in and one exit; an exit that is a branching has to
grow to lead on.
-/

namespace FieldChecks.Pattern

/-- The way in which an automaton reads a text. -/
inductive Heading where
  | forward
  | backward
  deriving Repr, DecidableEq

/-- How a part of an automaton is left. -/
inductive Exit where
  | plain
  | branching
  deriving Repr, DecidableEq

namespace Layout

/-- Leads on from an exit. -/
def leave : Exit → Layout Unit
  | .plain => pure ()
  | .branching => branches 1

/-! ## Repetitions -/

/-- Copies of a part behind an exit. -/
def furtherCopies (part : Layout Exit) : (count : Nat) → Exit → Layout Exit
  | 0, exit => pure exit
  | count + 1, exit => do
    let next ← part
    leave exit
    furtherCopies part count next

/-- Copies of a part, one after the other. -/
def copies (part : Layout Exit) : (count : Nat) → Layout Exit
  | 0 => do
    let _ ← state
    return .plain
  | count + 1 => do furtherCopies part count (← part)

/-- Copies of a part behind an exit, each of which may be the last one or be left out. -/
def optionalCopies (part : Layout Exit) : (count : Nat) → Exit → Layout Exit
  | 0, exit => pure exit
  | count + 1, exit => do
    let _ ← state
    let next ← part
    leave exit
    branches 2
    optionalCopies part count next

/-- A part or nothing. -/
def optional (part : Layout Exit) : Layout Exit := do
  let _ ← state
  leave (← part)
  let _ ← state
  branches 2
  return .plain

/-- A part any number of times; `takesText` if it does not match the empty text. -/
def anyCopies (part : Layout Exit) (takesText : Bool) : Layout Exit := do
  if takesText then
    let _ ← state
    leave (← part)
    branches 1
    return .branching
  else
    leave (← part)
    let _ ← states 3
    branches 4
    return .plain

/-- A part at least `least` and at most `most` times. -/
def repetition (part : Layout Exit) (takesText : Bool) (least : Nat) :
    (most : Option Nat) → Layout Exit
  | none => do
    if least == 0 then anyCopies part takesText
    else
      leave (← copies part least)
      let _ ← state
      branches 1
      return .branching
  | some most => do
    if least == 0 && most == 1 then optional part
    else if least == most then copies part least
    else
      let exit ← copies part least
      let _ ← state
      leave (← optionalCopies part (most - least) exit)
      return .plain

/-! ## Choices -/

/-- Alternatives, laid out one by one. -/
def alternatives : List (Layout Exit) → Layout Exit
  | [] => do
    let _ ← state
    return .plain
  | [only] => only
  | first :: second :: rest => do
    let first ← first
    let second ← second
    let _ ← states 2
    leave first
    leave second
    branches 2
    for part in rest do
      leave (← part)
      branches 1
    return .plain

/-- Words in order, cut where the empty one stands. -/
def cutAtEmpty : List (List Nat) → List (List (List Nat))
  | [] => [[]]
  | [] :: rest => [] :: cutAtEmpty rest
  | word :: rest => match cutAtEmpty rest with
    | [] => [[word]]
    | chunk :: chunks => (word :: chunk) :: chunks

/-- The bytes with which words begin, each with what follows it in them. -/
def byFirstByte (words : List (List Nat)) : List (List (List Nat)) :=
  (words.filterMap List.head?).eraseDups.map fun byte =>
    words.filterMap fun
      | [] => none
      | first :: rest => if first == byte then some rest else none

/-- The states of a tree of words, in which words share the bytes that they begin with. Where a word
ends that others go on from, the words in front of it and those behind it are kept apart. A single
byte leads on by a state without arcs of its own. -/
def wordTree : (depth : Nat) → List (List Nat) → Layout Unit
  | 0, _ => pure ()
  | depth + 1, words => do
    let longer := words.dropWhile List.isEmpty
    if longer.isEmpty then return
    let chunks := cutAtEmpty longer
    let ends := chunks.length - 1 + if longer.length < words.length then 1 else 0
    let _ ← state
    branches ends
    for chunk in chunks do
      unless chunk.isEmpty do
        let tails := byFirstByte chunk
        let _ ← arcs (if tails.length == 1 then 0 else tails.length)
        branches 1
        for words in tails do
          wordTree depth words

/-- A choice between words, given by their bytes. -/
def words (words : List (List Nat)) : Layout Exit := do
  let _ ← state
  wordTree ((words.map List.length).foldr max 0) words
  return .plain

/-! ## Sets -/

/-- The state from which byte sequences lead to the state `target`. -/
def sequencesForward (target : Nat) : (depth : Nat) → List ByteSequence → Layout Nat
  | 0, _ => pure target
  | depth + 1, sequences => do
    if sequences.all List.isEmpty then return target
    let alike := sequences.splitBy fun a b => a.head? == b.head?
    let steps ← alike.mapM fun sequences => do
      let next ← sequencesForward target depth (sequences.map List.tail)
      let ranges := sequences.head?.bind List.head?
      return ranges.toList.flatMap fun range => [range.first, range.last, next]
    shared steps.flatten (arcs steps.length)

/-- The state from which the bytes of a sequence lead to a state, the last one first. -/
def sequenceBackward (target : Nat) (sequence : ByteSequence) : Layout Nat :=
  sequence.foldlM (fun next range => shared [next, range.first, range.last] state) target

/-- One character of a set. -/
def set (heading : Heading) (set : RangeTable) : Layout Exit := do
  let sequences := set.ranges.flatMap fun (first, last) => ByteSequence.ofRange first last
  if set.ranges.all (·.2 < 0x80) then
    let _ ← state
    let _ ← arcs set.ranges.length
  else match heading with
    | .forward =>
      forget 10000
      let target ← state
      let _ ← sequencesForward target 4 sequences
    | .backward =>
      forget 1000
      let first ← states 2
      for sequence in sequences do
        let _ ← sequenceBackward (first + 1) sequence
        branches 1
  return .plain

end Layout

/-! ## Whole automata -/

namespace Shape

/-- A part of an automaton: the bytes of a word, if the part is one, and how it is laid out. -/
structure Part where
  word? : Option (List Nat)
  layout : Layout Exit

namespace Part

/-- A part that is no word. -/
def ofLayout (layout : Layout Exit) : Part := ⟨none, layout⟩

/-- A choice between parts. -/
def choice (parts : List Part) : Layout Exit :=
  match parts.mapM (·.word?) with
  | some (first :: second :: rest) => Layout.words (first :: second :: rest)
  | _ => Layout.alternatives (parts.map (·.layout))

end Part

/-- The bytes of a word in the order in which an automaton reads them. -/
def wordBytes (heading : Heading) (characters : List Nat) : List Nat :=
  let bytes := characters.flatMap bytesOf
  match heading with
  | .forward => bytes
  | .backward => bytes.reverse

/-- The parts of the automaton for the alternatives of a shape. -/
def automaton (heading : Heading) : Shape → List Part
  | .empty | .here _ => [.ofLayout do
      let _ ← Layout.state
      return .plain]
  | .word characters =>
    let bytes := wordBytes heading characters
    [⟨some bytes, do
      let _ ← Layout.states bytes.length
      return .plain⟩]
  | .one set => [.ofLayout (Layout.set heading set)]
  | .sequence first rest =>
    let first := Part.choice (first.automaton heading)
    let rest := Part.choice (rest.automaton heading)
    [.ofLayout do
      match heading with
      | .forward =>
        let exit ← first
        let last ← rest
        Layout.leave exit
        return last
      | .backward =>
        let exit ← rest
        let last ← first
        Layout.leave exit
        return last]
  | .choice first rest => first.automaton heading ++ rest.automaton heading
  | .repetition least most inner =>
    let part := Part.choice (inner.automaton heading)
    let takesText := inner.minBytes?.any (0 < ·)
    [.ofLayout (Layout.repetition part takesText least most)]
  | .kept inner =>
    let part := Part.choice (inner.automaton heading)
    [.ofLayout do
      match heading with
      | .forward =>
        let _ ← Layout.state
        Layout.leave (← part)
        let _ ← Layout.state
        return .plain
      | .backward => part]

/-- The states in front of an automaton: none but a way in if a condition holds the shape where
reading begins, and else a loop over all bytes. -/
def entrance (heading : Heading) (shape : Shape) : Layout Unit := do
  let held := match heading with
    | .forward => shape.beginsWith .textStart
    | .backward => shape.endsWith .textEnd
  if held then
    let _ ← Layout.state
  else
    let _ ← Layout.states 2
    let _ ← Layout.arcs 1
    Layout.branches 2

/-- The whole automaton of a shape, which keeps the match when it reads forward. -/
def wholeAutomaton (heading : Heading) (shape : Shape) : Layout Unit := do
  let whole := match heading with
    | .forward => Shape.kept shape
    | .backward => shape
  entrance heading shape
  Layout.leave (← Part.choice (whole.automaton heading))
  let _ ← Layout.state

/-- Whether an automaton for a shape stays within the limit. -/
def fitsHeading (heading : Heading) (shape : Shape) : Bool :=
  ((wholeAutomaton heading shape).run ⟨0, 0, .ofCapacity 1⟩).isSome

/-- A size that no automaton for a shape goes beyond, its entrance and last state left out. A
character takes at most four states in a row or in a tree, and a range of characters makes at most
21 byte sequences. -/
def ceiling : Shape → Nat
  | .empty | .here _ => 50
  | .word characters => 500 * (characters.length + 1)
  | .one set => 100 + 4000 * set.ranges.length
  | .sequence first rest | .choice first rest => first.ceiling + rest.ceiling + 100
  | .repetition least most inner => (inner.ceiling + 50) * (most.getD least + 1) + 200
  | .kept inner => inner.ceiling + 100

/-- Whether a shape is a choice between so many words that they are looked for without the two
automata. -/
def isWordList (shape : Shape) : Bool :=
  3000 ≤ shape.alternatives.length && shape.alternatives.all (·.word?.isSome)

/-- Whether the automata for a shape stay within the limit. -/
def fits (shape : Shape) : Bool :=
  shape.ceiling + 1000 ≤ sizeLimit || shape.isWordList ||
    (shape.fitsHeading .forward && shape.fitsHeading .backward)

end Shape

end FieldChecks.Pattern
