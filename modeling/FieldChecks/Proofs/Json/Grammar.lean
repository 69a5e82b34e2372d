import FieldChecks.Json.Skip
import FieldChecks.Proofs.Json.StringLiteral
import Mathlib.Data.List.Forall2

/-!
# The grammar of JSON

What a JSON text is, said without reading it: how numbers are put
together, which escapes a string may have, and what stands between
brackets. A bracket holds texts with commas between them and blanks
around them (`Bracketed`); those of a list are values, and those of an
object are members, each with a key, a colon and a value.

The same brackets are used for values of which nothing is asked but their
form (`IsValue`), and for the lists and objects that stand for something
(`Lists`, `IsObject`).
-/

namespace FieldChecks.Json

/-- Blanks only. -/
def Blanks (cs : List Char) : Prop :=
  ∀ c ∈ cs, isJsonBlank c = true

/-- What follows does not go on with a number: it is nothing, or starts with a blank, a comma or a
closing bracket. -/
def Delimits (rest : List Char) : Prop :=
  ∀ c ∈ rest.head?, isJsonBlank c = true ∨ c = ',' ∨ c = ']' ∨ c = '\x7d'

/-! ## Numbers and strings -/

/-- One digit or more. -/
structure AreDigits (cs : List Char) : Prop where
  ne_nil : cs ≠ []
  isDigit : ∀ c ∈ cs, isAsciiDigit c = true

/-- The part of a number before the point: zero, or digits of which the first one is not zero. -/
inductive IsWhole : List Char → Prop
  | zero : IsWhole ['0']
  | digits {c : Char} {cs : List Char} (hfirst : isAsciiDigit c = true) (hzero : c ≠ '0')
      (hdigits : ∀ d ∈ cs, isAsciiDigit d = true) : IsWhole (c :: cs)

/-- The part of a number from the point on, if there is one. -/
inductive IsFraction : List Char → Prop
  | absent : IsFraction []
  | digits {cs : List Char} (h : AreDigits cs) : IsFraction ('.' :: cs)

/-- The exponent of a number, if there is one. -/
inductive IsExponent : List Char → Prop
  | absent : IsExponent []
  | digits {letter : Char} {sign cs : List Char} (hletter : letter = 'e' ∨ letter = 'E')
      (hsign : sign = [] ∨ sign = ['+'] ∨ sign = ['-']) (h : AreDigits cs) :
      IsExponent (letter :: (sign ++ cs))

/-- **A number**, of any size and with any number of digits. -/
inductive IsNumber : List Char → Prop
  | parts {sign whole fraction exponent : List Char} (hsign : sign = [] ∨ sign = ['-'])
      (hwhole : IsWhole whole) (hfraction : IsFraction fraction)
      (hexponent : IsExponent exponent) :
      IsNumber (sign ++ (whole ++ (fraction ++ exponent)))

/-- What stands between the quotes of a string of which nothing is asked but its form; its code
units need not make characters. -/
inductive IsInside : List Char → Prop
  | nil : IsInside []
  | plain {c : Char} {cs : List Char} (hquote : c ≠ '"') (hslash : c ≠ '\\')
      (hcontrol : ¬ c < ' ') (h : IsInside cs) : IsInside (c :: cs)
  | letter {e c : Char} {cs : List Char} (he : StringLiteral.unescape? e = some c)
      (h : IsInside cs) : IsInside ('\\' :: e :: cs)
  | codeUnit {digits cs : List Char} (hlength : digits.length = 4)
      (hdigits : ∀ d ∈ digits, isHexDigit d = true) (h : IsInside cs) :
      IsInside ('\\' :: 'u' :: (digits ++ cs))

/-- **A text written as a string.** -/
inductive IsString : List Char → String → Prop
  | quoted {cs : List Char} {text : String} (h : StringLiteral.Spells cs text.toList) :
      IsString ('"' :: (cs ++ ['"'])) text

/-- A truth value as it is written. -/
def boolChars (flag : Bool) : List Char :=
  if flag then ['t', 'r', 'u', 'e'] else ['f', 'a', 'l', 's', 'e']

/-! ## Brackets -/

/-- The character that opens a bracket. -/
def Bracket.opening : Bracket → Char
  | .list => '['
  | .object => '\x7b'

/-- One text or more, with commas between them and blanks around each. -/
inductive Separated : List Char → List (List Char) → Prop
  | last {before item after : List Char} (hbefore : Blanks before) (hafter : Blanks after) :
      Separated (before ++ (item ++ after)) [item]
  | more {before item after rest : List Char} {items : List (List Char)} (hbefore : Blanks before)
      (hafter : Blanks after) (h : Separated rest items) :
      Separated (before ++ (item ++ (after ++ ',' :: rest))) (item :: items)

/-- **Texts between brackets.** -/
inductive Bracketed (bracket : Bracket) : List Char → List (List Char) → Prop
  | empty {blanks : List Char} (h : Blanks blanks) :
      Bracketed bracket (bracket.opening :: (blanks ++ [bracket.closing])) []
  | filled {cs : List Char} {items : List (List Char)} (h : Separated cs items) :
      Bracketed bracket (bracket.opening :: (cs ++ [bracket.closing])) items

/-- A member of an object: what stands between the quotes of its key, the blanks on both sides of
the colon, and its value. -/
structure Member where
  key : List Char
  before : List Char
  after : List Char
  value : List Char

/-- A member as it is written. -/
def Member.chars (member : Member) : List Char :=
  '"' :: (member.key ++ '"' :: (member.before ++ ':' :: (member.after ++ member.value)))

/-- The colon of a member has nothing but blanks on both sides, up to the key and the value. -/
structure Member.IsSpaced (member : Member) : Prop where
  before : Blanks member.before
  after : Blanks member.after

/-! ## Values -/

/-- **A value.** -/
inductive IsValue : List Char → Prop
  | null : IsValue ['n', 'u', 'l', 'l']
  | yes : IsValue ['t', 'r', 'u', 'e']
  | no : IsValue ['f', 'a', 'l', 's', 'e']
  | number {cs : List Char} (h : IsNumber cs) : IsValue cs
  | string {cs : List Char} (h : IsInside cs) : IsValue ('"' :: (cs ++ ['"']))
  | list {cs : List Char} {items : List (List Char)} (h : Bracketed .list cs items)
      (hitems : ∀ item ∈ items, IsValue item) : IsValue cs
  | object {cs : List Char} {members : List Member}
      (h : Bracketed .object cs (members.map Member.chars))
      (hspaced : ∀ member ∈ members, member.IsSpaced)
      (hkeys : ∀ member ∈ members, IsInside member.key)
      (hvalues : ∀ member ∈ members, IsValue member.value) : IsValue cs

/-- **A list of what relates to the entries of a list**, one by one. -/
inductive Lists {α : Type} (Writes : List Char → α → Prop) : List Char → List α → Prop
  | items {cs : List Char} {items : List (List Char)} {entries : List α}
      (h : Bracketed .list cs items) (hitems : List.Forall₂ Writes items entries) :
      Lists Writes cs entries

/-- The member has a key, and something for its value. -/
structure Member.Gives (member : Member) (entry : String × List Char) : Prop where
  spaced : member.IsSpaced
  key : StringLiteral.Spells member.key entry.1.toList
  value_eq : member.value = entry.2

/-- **An object of keys and of what is written for their values**, member by member. -/
inductive IsObject : List Char → List (String × List Char) → Prop
  | members {cs : List Char} {members : List Member} {entries : List (String × List Char)}
      (h : Bracketed .object cs (members.map Member.chars))
      (hentries : List.Forall₂ Member.Gives members entries) : IsObject cs entries

/-- **A text that holds something and nothing else**, but for blanks around it. -/
inductive Holds (Writes : List Char → Prop) : String → Prop
  | padded {text : String} {before cs after : List Char} (hbefore : Blanks before)
      (hafter : Blanks after) (htext : text.toList = before ++ (cs ++ after)) (h : Writes cs) :
      Holds Writes text

theorem Holds.of_toList {Writes : List Char → Prop} {text : String} (h : Writes text.toList) :
    Holds Writes text :=
  @Holds.padded Writes text [] _ [] nofun nofun (by simp) h

/-! ## Texts without blanks

What is written out has no blanks between its parts. -/

theorem isString_stringChars (text : String) : IsString (stringChars text) text :=
  .quoted (StringLiteral.spells_escape text.toList)

theorem separated_intercalate {items : List (List Char)} (h : items ≠ []) :
    Separated ([','].intercalate items) items := by
  induction items with
  | nil => exact absurd rfl h
  | cons item items ih =>
    cases items with
    | nil =>
      have hlast := @Separated.last [] item [] nofun nofun
      simpa [List.intercalate] using hlast
    | cons next items =>
      have hmore := @Separated.more [] item [] _ _ nofun nofun (ih (List.cons_ne_nil _ _))
      simpa [List.intercalate] using hmore

/-- Texts with nothing but commas between them, in a bracket. -/
def Bracket.chars (bracket : Bracket) (items : List (List Char)) : List Char :=
  bracket.opening :: ([','].intercalate items ++ [bracket.closing])

theorem Bracket.bracketed_chars (bracket : Bracket) (items : List (List Char)) :
    Bracketed bracket (bracket.chars items) items := by
  by_cases h : items = []
  · subst h
    exact @Bracketed.empty bracket [] nofun
  · exact .filled (separated_intercalate h)

/-- A member without blanks. -/
def Member.compact (entry : String × List Char) : Member :=
  ⟨entry.1.toList.flatMap StringLiteral.escape, [], [], entry.2⟩

theorem Member.gives_compact (entry : String × List Char) : (Member.compact entry).Gives entry :=
  ⟨⟨nofun, nofun⟩, StringLiteral.spells_escape _, rfl⟩

/-- An object without blanks. -/
def objectChars (entries : List (String × List Char)) : List Char :=
  Bracket.object.chars (entries.map fun entry => (Member.compact entry).chars)

theorem isObject_objectChars (entries : List (String × List Char)) :
    IsObject (objectChars entries) entries := by
  have hbracketed : Bracketed .object (objectChars entries)
      ((entries.map Member.compact).map Member.chars) := by
    rw [List.map_map]
    exact Bracket.bracketed_chars _ _
  refine .members hbracketed ?_
  rw [List.forall₂_map_left_iff, List.forall₂_same]
  exact fun entry _ => Member.gives_compact entry

end FieldChecks.Json
