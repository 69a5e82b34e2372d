import FieldChecks.Pattern.Nesting
import FieldChecks.Pattern.Reader.Primitive

/-!
# Classes in brackets

A class in brackets lists characters, ranges and other classes, and may
be put together from two sides by `&&`, `--` and `~~`. Operations are
applied from left to right, each to all that stands before it. Members
that stand side by side and operations nest their parts, as brackets do.
-/

namespace FieldChecks.Pattern

namespace Reader

/-- A part of a class: its characters, where it stands, and how it is nested. -/
structure ClassPart where
  set : RangeTable
  span : Span
  nested : List Nesting

/-- The part that members make up which stand side by side, the first of them at `first`. -/
def sideBySide (first : Place) : List ClassPart → ClassPart
  | [] => ⟨.empty, ⟨first, first⟩, []⟩
  | [member] => member
  | members =>
    let last := (members.getLast?.map (·.span.last)).getD first
    let begin := (members.head?.map (·.span.first)).getD first
    let span := ⟨begin, last⟩
    ⟨.unions (members.map (·.set)), span, [.part span (members.flatMap (·.nested))]⟩

/-- An operation between two sets of a class. -/
inductive Operation where
  | intersection
  | difference
  | symmetricDifference
  deriving Repr, DecidableEq

/-- The set that an operation makes of two. -/
def Operation.apply : Operation → RangeTable → RangeTable → RangeTable
  | .intersection, a, b => a.intersection b
  | .difference, a, b => a.difference b
  | .symmetricDifference, a, b => a.symmetricDifference b

/-- A class whose closing bracket is still to come: where it was opened, the members read since
the last operation, in reverse, the place where they begin, and that operation with its left
side. -/
structure OpenClass where
  span : Span
  negated : Bool
  members : List ClassPart
  begin : Place
  left : Option (Operation × ClassPart)

namespace OpenClass

/-- A class with one more member. -/
def push (cls : OpenClass) (member : ClassPart) : OpenClass :=
  { cls with members := member :: cls.members }

/-- The part that has been read so far. -/
def sofar (cls : OpenClass) : Reader ClassPart := do
  let right := sideBySide cls.begin cls.members.reverse
  match cls.left with
  | none => return right
  | some (operation, left) =>
    let span := ⟨left.span.first, right.span.last⟩
    let set := operation.apply (← folded left.set) (← folded right.set)
    return ⟨set, span, [.part span (left.nested ++ right.nested)]⟩

/-- A class behind an operation sign, the next member beginning at the place reached. -/
def operate (cls : OpenClass) (operation : Operation) : Reader OpenClass := do
  return { cls with members := [], begin := ← place, left := some (operation, ← cls.sofar) }

/-- The class whose closing bracket has been read. -/
def close (cls : OpenClass) : Reader ClassPart := do
  let span ← since cls.span.first
  let inside ← cls.sofar
  let set ← negatedIf cls.negated (← folded inside.set) span
  return ⟨set, span, [.part span inside.nested]⟩

end OpenClass

/-- The hyphens at the start of a class, which stand for themselves. -/
def leadingHyphens (first : Place) : (fuel : Nat) → Reader (List ClassPart)
  | 0 => return []
  | fuel + 1 => do
    if (← peek) == some '-' then
      let span ← thisChar
      bumpOn
      if (← peek).isNone then
        fail .classUnclosed ⟨first, first⟩
      return ⟨.single '-', span, []⟩ :: (← leadingHyphens first fuel)
    else return []

/-- The start of a class, whose bracket is next: a negation, and the characters that stand for
themselves only there. -/
def openClass : Reader OpenClass := do
  let first ← place
  bumpOn
  if (← peek).isNone then
    fail .classUnclosed (← since first)
  let negated := (← peek) == some '^'
  if negated then
    bumpOn
    if (← peek).isNone then
      fail .classUnclosed (← since first)
  let begin ← place
  let hyphens ← leadingHyphens first (← get).rest.length
  if hyphens.isEmpty && (← peek) == some ']' then
    let span ← thisChar
    bumpOn
    if (← peek).isNone then
      fail .classUnclosed (← since first)
    return ⟨← since first, negated, [⟨.single ']', span, []⟩], begin, none⟩
  return ⟨← since first, negated, hyphens.reverse, begin, none⟩

/-- The set of a named class of ASCII characters. -/
def asciiClass? : String → Option RangeTable
  | "alnum" => some (.unions [.between '0' '9', .between 'A' 'Z', .between 'a' 'z'])
  | "alpha" => some (.unions [.between 'A' 'Z', .between 'a' 'z'])
  | "ascii" => some (.between '\x00' '\x7f')
  | "blank" => some (.unions [.single '\t', .single ' '])
  | "cntrl" => some (.unions [.between '\x00' '\x1f', .single '\x7f'])
  | "digit" => some (.between '0' '9')
  | "graph" => some (.between '!' '~')
  | "lower" => some (.between 'a' 'z')
  | "print" => some (.between ' ' '~')
  | "punct" => some (.unions [.between '!' '/', .between ':' '@', .between '[' '\x60',
      .between '\x7b' '~'])
  | "space" => some (.unions [.between '\t' '\r', .single ' '])
  | "upper" => some (.between 'A' 'Z')
  | "word" => some asciiWordChars
  | "xdigit" => some (.unions [.between '0' '9', .between 'A' 'F', .between 'a' 'f'])
  | _ => none

/-- The named class that comes next, such as `[:alpha:]`, if one does. -/
def namedClass? : Reader (Option ClassPart) := do
  let state ← get
  match state.rest with
  | '[' :: ':' :: rest =>
    let (negated, rest) := match rest with
      | '^' :: rest => (true, rest)
      | rest => (false, rest)
    let (name, rest) := rest.span (· != ':')
    match rest, asciiClass? (String.ofList name) with
    | ':' :: ']' :: _, some set =>
      let length := name.length + if negated then 5 else 4
      (List.replicate length ()).forM fun _ => bump
      let span ← since state.place
      return some ⟨← negatedIf negated (← folded set) span, span, []⟩
    | _, _ => return none
  | _ => return none

/-- A member of a class that is not itself a class in brackets. -/
def classPrimitive : Reader Primitive := do
  match ← peek with
  | some '\\' => escape
  | some c =>
    let span ← thisChar
    bump
    return .literal span c false
  | none => fail .classUnclosed (← here)

/-- A primitive as a member of a class. -/
def primitiveMember : Primitive → Reader ClassPart
  | .literal span c byte => return ⟨.single (← memberChar span c byte), span, []⟩
  | .set span set => return ⟨set, span, []⟩
  | .condition span _ => fail .classEscapeInvalid span

/-- A primitive as an end of a range. -/
def rangeEnd : Primitive → Reader (Span × Char × Bool)
  | .literal span c byte => return (span, c, byte)
  | primitive => fail .classRangeLiteral primitive.span

/-- A single member of a class, or a range of characters; `unclosed` is the innermost class. -/
def classMember (unclosed : Span) : Reader ClassPart := do
  let primitive ← classPrimitive
  bumpBlanks
  let state ← get
  match state.rest.head? with
  | none => fail .classUnclosed unclosed
  | some '-' =>
    if state.second? == some ']' || state.second? == some '-' then primitiveMember primitive
    else
      bumpOn
      if (← peek).isNone then
        fail .classUnclosed unclosed
      let last ← classPrimitive
      let (firstSpan, first, firstByte) ← rangeEnd primitive
      let (lastSpan, last, lastByte) ← rangeEnd last
      let span := ⟨firstSpan.first, lastSpan.last⟩
      if last < first then
        fail .classRangeInvalid span
      let first ← memberChar firstSpan first firstByte
      let last ← memberChar lastSpan last lastByte
      return ⟨.between first last, span, []⟩
  | some _ => primitiveMember primitive

/-- The rest of a class, up to the bracket that closes the outermost one. -/
def classRest : (fuel : Nat) → OpenClass → (outer : List OpenClass) → Reader ClassPart
  | 0, cls, _ => fail .classUnclosed cls.span
  | fuel + 1, cls, outer => do
    bumpBlanks
    match (← get).rest with
    | [] => fail .classUnclosed cls.span
    | '[' :: _ =>
      match ← namedClass? with
      | some member => classRest fuel (cls.push member) outer
      | none => classRest fuel (← openClass) (cls :: outer)
    | ']' :: _ =>
      bump
      let closed ← cls.close
      match outer with
      | [] => return closed
      | around :: outer => classRest fuel (around.push closed) outer
    | '&' :: '&' :: _ =>
      bump
      bump
      classRest fuel (← cls.operate .intersection) outer
    | '-' :: '-' :: _ =>
      bump
      bump
      classRest fuel (← cls.operate .difference) outer
    | '~' :: '~' :: _ =>
      bump
      bump
      classRest fuel (← cls.operate .symmetricDifference) outer
    | _ => classRest fuel (cls.push (← classMember cls.span)) outer

/-- The class in brackets that comes next. -/
def bracketed : Reader ClassPart := do
  let fuel := (← get).rest.length
  classRest fuel (← openClass) []

end Reader

end FieldChecks.Pattern
