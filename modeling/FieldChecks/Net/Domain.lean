import FieldChecks.Net.DomainMapping
import FieldChecks.Net.Punycode
import FieldChecks.Text.Direction
import FieldChecks.Text.Joining
import FieldChecks.Text.Normalization
import FieldChecks.Text.Property
import FieldChecks.Text.Split

/-!
# International domain names

A domain name is a text of labels with dots between them. Its characters
are mapped and composed, and a label that starts with `xn--` is decoded;
the labels must then be good ones, and in a name with letters that run to
the left each label must be readable in one way only. The ASCII form of
the name encodes the labels with other characters.
-/

namespace FieldChecks

namespace Domain

/-- What a label that is encoded starts with. -/
def encodedMark : List Char := ['x', 'n', '-', '-']

/-- The greatest length of an encoded label, without the mark. -/
def maxEncoded : Nat := 2000

/-- The greatest length of a label with characters that are not ASCII. -/
def maxDecoded : Nat := 1000

/-- The zero-width non-joiner. -/
def nonJoiner : Char := '\u200c'

/-- The zero-width joiner. -/
def joiner : Char := '\u200d'

/-- Whether a character is ASCII. -/
def isAscii (c : Char) : Bool :=
  c.toNat < 0x80

/-- Whether a character of a mapped name cannot stand in it: controls, the blank, and what has a
meaning in URLs. -/
def isDenied (c : Char) : Bool :=
  c ≤ ' ' || c == '\x7f' ||
    ['%', '#', '/', ':', '<', '>', '?', '@', '[', '\\', ']', '^', '|'].contains c

/-- A text with its characters mapped and composed; none if one is refused. -/
def canonical? (cs : List Char) : Option (List Char) :=
  (cs.flatMapM mapChar?).map fun mapped => if mapped.all isAscii then mapped else normalize mapped

/-! ## Labels -/

/-- Whether a joiner may stand between what is before it, the last character first, and what is
after it. Both may stand behind a virama; a non-joiner also keeps apart letters that would join. -/
def allowsJoiner (before : List Char) (c : Char) (after : List Char) : Bool :=
  before.head?.any (combiningClass · == CombiningClass.virama) ||
    (c == nonJoiner &&
      (before.dropWhile Joining.isTransparent).head?.any Joining.joinsAfter &&
      (after.dropWhile Joining.isTransparent).head?.any Joining.joinsBefore)

/-- Whether all joiners behind some characters, the last one first, may stand where they are. -/
def joinersAllowed (before : List Char) : List Char → Bool
  | [] => true
  | c :: cs =>
    (!(c == joiner || c == nonJoiner) || allowsJoiner before c cs) &&
      joinersAllowed (c :: before) cs

/-- Whether a label is a good one: it does not start with a mark, its joiners may stand where they
are, and it is not too long to be encoded. -/
def isValidLabel (label : List Char) : Bool :=
  label.all isAscii ||
    (!label.head?.any (fun c => (Category.ofChar c).isMark) && joinersAllowed [] label &&
      label.length ≤ maxDecoded)

/-- The text of a label of a canonical name. An encoded label stands for a canonical text that is
not ASCII alone. -/
def decodeLabel? (label : List Char) : Option (List Char) :=
  if encodedMark.isPrefixOf label then do
    let encoded := label.drop encodedMark.length
    if encoded.length > maxEncoded || encoded.getLast?.all (· == '-') then none
    else
      let text ← Punycode.decode? encoded
      if canonical? text == some text then some text else none
  else some label

/-- The ASCII form of a label. -/
def encodeLabel (label : List Char) : List Char :=
  if label.all isAscii then label else encodedMark ++ Punycode.encode label

/-! ## Directions -/

/-- The directions of a label without the marks at its end. -/
def directions (label : List Char) : List Direction :=
  ((label.map Direction.ofChar).reverse.dropWhile (· == .mark)).reverse

/-- Whether text of a label may run from the right to the left: letters that do, numbers of one
kind, neutral characters and marks, with a letter at the start and a letter or a number at the
end. -/
def runsLeft (label : List Char) : Bool :=
  let all := directions label
  all.head? == some .rightToLeft &&
    all.getLast?.any [.rightToLeft, .europeanNumber, .arabicNumber].contains &&
    all.all (· != .leftToRight) && !(all.contains .europeanNumber && all.contains .arabicNumber)

/-- Whether text of a label runs from the left to the right: letters that do, European numbers,
neutral characters and marks, with a letter at the start and a letter or a number at the end. -/
def runsRight (label : List Char) : Bool :=
  let all := directions label
  all.head? == some .leftToRight && all.getLast?.any [.leftToRight, .europeanNumber].contains &&
    all.all fun direction => direction != .rightToLeft && direction != .arabicNumber

/-- Whether a name has letters or numbers of a script that runs to the left. -/
def hasRightToLeft (labels : List (List Char)) : Bool :=
  labels.any (·.any fun c => [.rightToLeft, .arabicNumber].contains (Direction.ofChar c))

/-- Whether every label of a name can be read in one way only. -/
def isReadable (labels : List (List Char)) : Bool :=
  !hasRightToLeft labels ||
    labels.all fun label => label.isEmpty || runsLeft label || runsRight label

/-! ## Names -/

/-- The labels of a domain name as they are read; none if it is not one. -/
def labels? (cs : List Char) : Option (List (List Char)) := do
  let canonical ← canonical? cs
  if canonical.any isDenied then none
  else
    let labels ← (Chars.split ['.'] canonical).mapM decodeLabel?
    if labels.all isValidLabel && isReadable labels then some labels else none

/-- The ASCII form of a domain name; none if it is not one. -/
def toAscii? (cs : List Char) : Option (List Char) :=
  (labels? cs).map fun labels => ['.'].intercalate (labels.map encodeLabel)

end Domain

end FieldChecks
