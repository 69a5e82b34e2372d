import FieldChecks.Pattern.Age
import FieldChecks.Pattern.ScriptExtension
import FieldChecks.Pattern.Segmentation

/-!
# Character properties in patterns

A pattern may ask for the characters of a general category or a group of
them, of a script, or of a property that a character has or has not; and
for the characters with a value of a property that has several. Names are
read loosely: letter case, blanks, hyphens and underscores do not matter,
and neither does `is` in front.

The standard has more properties than patterns have sets for. Such a
property has a name but no values, so a pattern that asks for a value of
it is told that there is no such value.
-/

namespace FieldChecks.Pattern

/-- How a pattern names a property. -/
inductive PropertyName where
  /-- A name of its own, as in `\pL` or `\p{Greek}`. -/
  | plain (name : String)
  /-- A value of a named property, as in `\p{Script=Greek}`. -/
  | valued (property value : String)
  deriving Repr, DecidableEq

/-- Why a property has no meaning. -/
inductive PropertyFault where
  | unknownProperty
  | unknownValue
  deriving Repr, DecidableEq

namespace Property

/-- A name without letter case, blanks, hyphens, underscores, and `is` in front. -/
def loose (name : String) : String :=
  let letters := name.toList.map asciiLower
  let (stripped, rest) := match letters with
    | 'i' :: 's' :: rest => (true, rest)
    | _ => (false, letters)
  let kept := rest.filter fun c => c.toNat < 128 && c != ' ' && c != '-' && c != '_'
  if stripped && kept == ['c'] then "isc" else String.ofList kept

/-- The categories, and groups of categories, with the loose names they have. -/
def categoryNames : List (List String × List Category) := [
  (["lu", "uppercaseletter"], [.uppercaseLetter]),
  (["ll", "lowercaseletter"], [.lowercaseLetter]),
  (["lt", "titlecaseletter"], [.titlecaseLetter]),
  (["lc", "casedletter"], [.uppercaseLetter, .lowercaseLetter, .titlecaseLetter]),
  (["lm", "modifierletter"], [.modifierLetter]),
  (["lo", "otherletter"], [.otherLetter]),
  (["l", "letter"],
    [.uppercaseLetter, .lowercaseLetter, .titlecaseLetter, .modifierLetter, .otherLetter]),
  (["mn", "nonspacingmark"], [.nonspacingMark]),
  (["mc", "spacingmark"], [.spacingMark]),
  (["me", "enclosingmark"], [.enclosingMark]),
  (["m", "mark", "combiningmark"], [.nonspacingMark, .spacingMark, .enclosingMark]),
  (["nd", "decimalnumber", "digit"], [.decimalNumber]),
  (["nl", "letternumber"], [.letterNumber]),
  (["no", "othernumber"], [.otherNumber]),
  (["n", "number"], [.decimalNumber, .letterNumber, .otherNumber]),
  (["pc", "connectorpunctuation"], [.connectorPunctuation]),
  (["pd", "dashpunctuation"], [.dashPunctuation]),
  (["ps", "openpunctuation"], [.openPunctuation]),
  (["pe", "closepunctuation"], [.closePunctuation]),
  (["pi", "initialpunctuation"], [.initialPunctuation]),
  (["pf", "finalpunctuation"], [.finalPunctuation]),
  (["po", "otherpunctuation"], [.otherPunctuation]),
  (["p", "punctuation", "punct"],
    [.connectorPunctuation, .dashPunctuation, .openPunctuation, .closePunctuation,
     .initialPunctuation, .finalPunctuation, .otherPunctuation]),
  (["sm", "mathsymbol"], [.mathSymbol]),
  (["sc", "currencysymbol"], [.currencySymbol]),
  (["sk", "modifiersymbol"], [.modifierSymbol]),
  (["so", "othersymbol"], [.otherSymbol]),
  (["s", "symbol"], [.mathSymbol, .currencySymbol, .modifierSymbol, .otherSymbol]),
  (["zs", "spaceseparator"], [.spaceSeparator]),
  (["zl", "lineseparator"], [.lineSeparator]),
  (["zp", "paragraphseparator"], [.paragraphSeparator]),
  (["z", "separator"], [.spaceSeparator, .lineSeparator, .paragraphSeparator]),
  (["cc", "control", "cntrl"], [.control]),
  (["cf", "format"], [.format]),
  (["co", "privateuse"], [.privateUse]),
  (["cn", "unassigned"], [.unassigned]),
  (["c", "other"], [.control, .format, .surrogate, .privateUse, .unassigned])]

/-- The characters of a category or a group of categories. -/
def category? (name : String) : Option RangeTable :=
  if name == "any" then some RangeTable.empty.complement
  else if name == "ascii" then some (.between '\x00' '\x7f')
  else if name == "assigned" then some (categoryChars [.unassigned]).complement
  else (categoryNames.find? (·.1.contains name)).map fun entry => categoryChars entry.2

/-- The characters of a script. -/
def script? (name : String) : Option RangeTable :=
  NamedSet.find? scripts name

/-- The characters that a script uses. -/
def scriptUsers? (name : String) : Option RangeTable :=
  (scripts.find? (·.names.contains name)).map ScriptExtension.users

/-- The names of the properties of several values for which there are sets. -/
def valuedNames : List String :=
  ["age", "gc", "generalcategory", "gcb", "graphemeclusterbreak", "sb", "sentencebreak", "sc",
    "script", "scx", "scriptextensions", "wb", "wordbreak"]

/-- The names of the properties for which there are no sets. -/
def namesWithoutSets : List String := [
  "bc", "bidiclass", "bidimirroringglyph", "bidipairedbracket", "bidipairedbrackettype", "blk",
  "block", "bmg", "bpb", "bpt", "canonicalcombiningclass", "casefolding", "ccc", "ce", "cf",
  "changeswhennfkccasefolded", "cjkaccountingnumeric", "cjkcompatibilityvariant", "cjkiicore",
  "cjkirggsource", "cjkirghsource", "cjkirgjsource", "cjkirgkpsource", "cjkirgksource",
  "cjkirgmsource", "cjkirgssource", "cjkirgtsource", "cjkirguksource", "cjkirgusource",
  "cjkirgvsource", "cjkothernumeric", "cjkprimarynumeric", "cjkrsunicode", "compex",
  "compositionexclusion", "cwkcf", "decompositionmapping", "decompositiontype", "dm", "dt", "ea",
  "eastasianwidth", "equideo", "equivalentunifiedideograph", "expandsonnfc", "expandsonnfd",
  "expandsonnfkc", "expandsonnfkd", "fcnfkc", "fcnfkcclosure", "fullcompositionexclusion",
  "hangulsyllabletype", "hst", "incb", "indicconjunctbreak", "indicpositionalcategory",
  "indicsyllabiccategory", "inpc", "insc", "isc", "jamoshortname", "jg", "joininggroup",
  "joiningtype", "jsn", "jt", "kaccountingnumeric", "kcompatibilityvariant", "kehcat", "kehdesc",
  "kehhg", "kehifao", "kehjsesh", "kehnomirror", "kehnorotate", "kiicore", "kirggsource",
  "kirghsource", "kirgjsource", "kirgkpsource", "kirgksource", "kirgmsource", "kirgssource",
  "kirgtsource", "kirguksource", "kirgusource", "kirgvsource", "kothernumeric", "kprimarynumeric",
  "krsunicode", "lb", "lc", "linebreak", "lowercasemapping", "na", "na1", "name", "namealias",
  "nfcqc", "nfcquickcheck", "nfdqc", "nfdquickcheck", "nfkccasefold", "nfkccf", "nfkcqc",
  "nfkcquickcheck", "nfkcscf", "nfkcsimplecasefold", "nfkdqc", "nfkdquickcheck", "nt",
  "numerictype", "numericvalue", "nv", "ocomment", "scf", "sfc", "simplecasefolding",
  "simplelowercasemapping", "simpletitlecasemapping", "simpleuppercasemapping", "slc", "stc",
  "suc", "tc", "titlecasemapping", "uc", "unicode1name", "unicoderadicalstroke",
  "uppercasemapping", "urs", "verticalorientation", "vo", "xonfc", "xonfd", "xonfkc", "xonfkd"]

/-- The names of a category and of scripts for which there are no sets. -/
def valuesWithoutSets : List String :=
  ["cs", "hrkt", "katakanaorhiragana", "surrogate", "unknown", "zzzz"]

/-- Whether a name is that of a property. -/
def isProperty (name : String) : Bool :=
  valuedNames.contains name || namesWithoutSets.contains name ||
    binaryProperties.any (·.names.contains name)

/-- The names that mean a category where they stand alone, though they are names of properties. -/
def categoriesFirst : List String := ["cf", "lc", "sc"]

/-- The characters that a name asks for that stands alone. -/
def plain (name : String) : Except PropertyFault RangeTable :=
  if isProperty name && !categoriesFirst.contains name then
    match NamedSet.find? binaryProperties name with
    | some table => .ok table
    | none => .error .unknownProperty
  else match category? name <|> script? name with
    | some table => .ok table
    | none =>
      .error (if valuesWithoutSets.contains name then .unknownValue else .unknownProperty)

/-- The characters with a value of a property. -/
def valued? (property value : String) : Option RangeTable :=
  match property with
  | "age" => age? value
  | "gc" | "generalcategory" => category? value
  | "gcb" | "graphemeclusterbreak" => NamedSet.find? graphemeBreaks value
  | "sb" | "sentencebreak" => NamedSet.find? sentenceBreaks value
  | "sc" | "script" => script? value
  | "scx" | "scriptextensions" => scriptUsers? value
  | "wb" | "wordbreak" => NamedSet.find? wordBreaks value
  | _ => none

/-- The characters that a pattern asks for. -/
def ofName : PropertyName → Except PropertyFault RangeTable
  | .plain name => plain (loose name)
  | .valued property value =>
    if !isProperty (loose property) then .error .unknownProperty
    else match valued? (loose property) (loose value) with
      | some table => .ok table
      | none => .error .unknownValue

end Property

end FieldChecks.Pattern
