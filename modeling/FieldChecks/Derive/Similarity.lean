/-!
# Similar words

How similar two words are, as a fraction between zero and one. Characters
match if they are equal and not too far apart; the similarity is the mean
of the matched part of either word and of the part of the matches that
are in the same order. Words that are alike already count as more alike
the longer the start they share, up to four characters.
-/

namespace FieldChecks.Derive.Similarity

/-- A fraction, which need not be reduced. -/
structure Fraction where
  numerator : Nat
  denominator : Nat
  deriving Repr, DecidableEq

/-- Whether a fraction is larger than another. -/
def Fraction.exceeds (x y : Fraction) : Bool :=
  y.numerator * x.denominator < x.numerator * y.denominator

/-- Takes the first character equal to `c` whose position is at least `least` and below `bound`
out of the free characters of a word. -/
def take? (c : Char) (least bound : Nat) :
    List (Nat × Char) → Option (Nat × List (Nat × Char))
  | [] => none
  | (i, d) :: rest =>
    if least ≤ i ∧ i < bound ∧ c = d then some (i, rest)
    else (take? c least bound rest).map fun (j, others) => (j, (i, d) :: others)

/-- The matches of the characters of a word, from position `i` on, with free characters of
another: each character and the position of its match. -/
def matchesFrom (reach : Nat) : (i : Nat) → List Char → (free : List (Nat × Char)) →
    List (Char × Nat)
  | _, [], _ => []
  | i, c :: cs, free => match take? c (i - reach) (i + reach + 1) free with
    | none => matchesFrom reach (i + 1) cs free
    | some (j, free) => (c, j) :: matchesFrom reach (i + 1) cs free

/-- How many positions two lists differ at. -/
def differences (xs ys : List Char) : Nat :=
  (xs.zip ys).countP fun (x, y) => x != y

/-- How similar two words are by the characters that match. -/
def byMatches (a b : List Char) : Fraction :=
  if a.isEmpty && b.isEmpty then ⟨1, 1⟩
  else
    let reach := max a.length b.length / 2 - 1
    let found := matchesFrom reach 0 a (b.zipIdx.map fun (c, i) => (i, c))
    let positions := found.map Prod.snd
    let inOrder := (b.zipIdx.filter fun (_, i) => positions.contains i).map Prod.fst
    let swaps := differences (found.map Prod.fst) inOrder / 2
    let m := found.length
    if m == 0 then ⟨0, 1⟩
    else ⟨m * b.length * m + m * a.length * m + (m - swaps) * a.length * b.length,
      3 * a.length * b.length * m⟩

/-- The length of the start that two words share. -/
def sharedStart : List Char → List Char → Nat
  | x :: xs, y :: ys => if x = y then sharedStart xs ys + 1 else 0
  | _, _ => 0

/-- How similar two words are. -/
def similarity (a b : String) : Fraction :=
  let base := byMatches a.toList b.toList
  if base.exceeds ⟨7, 10⟩ then
    let shared := min 4 (sharedStart a.toList b.toList)
    ⟨10 * base.numerator + shared * (base.denominator - base.numerator), 10 * base.denominator⟩
  else base

/-- The one of some words that is most similar to a word, the first one of several, if one is
similar enough. -/
def closest? (word : String) (candidates : List String) : Option String :=
  (candidates.foldl (fun best candidate =>
    let score := similarity word candidate
    match best with
    | some (top, _) => if score.exceeds top then some (score, candidate) else best
    | none => if score.exceeds ⟨8, 10⟩ then some (score, candidate) else none)
    none).map Prod.snd

end FieldChecks.Derive.Similarity
