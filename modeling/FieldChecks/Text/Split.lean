import FieldChecks.Text.Blank

/-!
# Cutting and splitting

A text is cut at the first occurrence of a separator (`cut?`), or split
at all its occurrences (`split`). Occurrences are taken from left to
right and do not overlap, so splitting `a,,,b` at two commas gives `a`
and `,b`. An empty separator occurs once before every character and once
at the end.
-/

namespace FieldChecks

namespace Chars

/-- What follows `head` in a text that starts with it. -/
def after? : (head text : List Char) → Option (List Char)
  | [], text => some text
  | _ :: _, [] => none
  | h :: head, c :: text => if h == c then after? head text else none

/-- The parts before and after the first occurrence of a separator. -/
def cut? (separator : List Char) : List Char → Option (List Char × List Char)
  | [] => if separator.isEmpty then some ([], []) else none
  | c :: cs => match after? separator (c :: cs) with
    | some rest => some ([], rest)
    | none => (cut? separator cs).map fun (before, rest) => (c :: before, rest)

/-- Whether a separator occurs in a text. -/
def occurs (separator text : List Char) : Bool :=
  (cut? separator text).isSome

/-- The pieces of a text from a point on: `skip` characters still belong to the last
separator, and `piece` holds, in reverse, what has been read of the current piece. -/
def splitFrom (separator : List Char) : (skip : Nat) → (piece text : List Char) → List (List Char)
  | _, piece, [] => [piece.reverse]
  | skip + 1, piece, _ :: text => splitFrom separator skip piece text
  | 0, piece, c :: text =>
    if (after? separator (c :: text)).isSome then
      piece.reverse :: splitFrom separator (separator.length - 1) [] text
    else
      splitFrom separator 0 (c :: piece) text

/-- The pieces of a text between the occurrences of a separator. -/
def split (separator text : List Char) : List (List Char) :=
  if separator.isEmpty then [[]] ++ text.map (fun c => [c]) ++ [[]]
  else splitFrom separator 0 [] text

end Chars

namespace Text

/-- The parts of a text before and after the first occurrence of a separator. -/
def cut? (separator text : String) : Option (String × String) :=
  (Chars.cut? separator.toList text.toList).map fun (before, rest) =>
    (String.ofList before, String.ofList rest)

/-- Whether a separator occurs in a text. -/
def occurs (separator text : String) : Bool :=
  Chars.occurs separator.toList text.toList

/-- The pieces of a text between the occurrences of a separator. -/
def split (separator text : String) : List String :=
  (Chars.split separator.toList text.toList).map String.ofList

end Text

end FieldChecks
