import FieldChecks.Derive.Code
import FieldChecks.Proofs.Derive.StringLiteral
import FieldChecks.Proofs.Text.Split

/-!
# Generated code — the fields are read back from it

The method that lists the fields has one expression for each of them.
Taken apart at its commas, quotes and parentheses, the text of that list
gives the fields again (`readFields_write`), whatever stands in their
names and tags. What surrounds the list depends on everything else but
the fields, so two structs that agree in everything else have the same
code only if they have the same fields (`write_code_eq_iff`).
-/

namespace FieldChecks.Derive

/-! ## Reading the list of fields -/

/-- A member up to a closing parenthesis: a position if it starts with a digit, and a name if
not. -/
def readMember (cs : List Char) : Option (Member × List Char) :=
  let name := cs.takeWhile (· != ')')
  let rest := cs.dropWhile (· != ')')
  if name.head?.any isAsciiDigit then
    (digitsValue? 10 name).map fun index => (.position index, rest)
  else some (.named (String.ofList name), rest)

/-- A truth value. -/
def readFlag (cs : List Char) : Option (Bool × List Char) :=
  match Chars.after? "true".toList cs with
  | some rest => some (true, rest)
  | none => (Chars.after? "false".toList cs).map fun rest => (false, rest)

/-- One entry or more, at most `most`, with commas between them; what an entry looks like depends
on the token in front of it. -/
def readEntries {α : Type} (read : Token → List Char → Option (α × List Char)) :
    (most : Nat) → (left : Token) → List Char → Option (List α × List Char)
  | 0, _, _ => none
  | most + 1, left, cs => do
    let (entry, cs) ← read left cs
    match Chars.after? " ,".toList cs with
    | none => return ([entry], cs)
    | some rest =>
      let (entries, rest) ← readEntries read most (.sign ",") rest
      return (entry :: entries, rest)

/-- A tag. -/
def readTag (left : Token) (cs : List Char) : Option (Tag × List Char) := do
  let cs ← Chars.after? (Token.charsAfter left [.sign "("]) cs
  let (name, cs) ← readLiteral cs
  let cs ← Chars.after? " , ".toList cs
  let (text, cs) ← readLiteral cs
  let cs ← Chars.after? ")".toList cs
  return ((name, text), cs)

/-- The tags of a field; there are none if they are not announced. -/
def readTagList (cs : List Char) : Option (List Tag × List Char) :=
  match Chars.after? " . with_tags (& [".toList cs with
  | none => some ([], cs)
  | some rest => do
    let (tags, rest) ← readEntries readTag rest.length (.sign "[") rest
    let rest ← Chars.after? "])".toList rest
    return (tags, rest)

/-- The tokens in front of the name of a field. -/
def opening (library : List Token) : List Token :=
  Code.below (Code.below library "Field") "new" ++ Code.sign "("

/-- A field. -/
def readField (library : List Token) (left : Token) (cs : List Char) :
    Option (FieldDescriptor × List Char) := do
  let cs ← Chars.after? (Token.charsAfter left (opening library)) cs
  let (name, cs) ← readLiteral cs
  let cs ← Chars.after? " , & self . ".toList cs
  let (member, cs) ← readMember cs
  let cs ← Chars.after? ") . with_public (".toList cs
  let (isPublic, cs) ← readFlag cs
  let cs ← Chars.after? ")".toList cs
  let (tags, cs) ← readTagList cs
  return (⟨member, name, isPublic, tags⟩, cs)

/-- **The fields that the body of the method lists.** -/
def readFields (library : List Token) (text : String) : Option (List FieldDescriptor) := do
  let cs ← Chars.after? ":: std :: vec ! [".toList text.toList
  if cs = [']'] then return []
  else
    let (fields, rest) ← readEntries (readField library) cs.length (.sign "[") cs
    if rest = [']'] then return fields else none

/-! ## Members -/

/-- A name that starts with no digit and has no closing parenthesis in it. All identifiers are
such names, raw ones too; a position has nothing to be asked for. -/
inductive Member.IsPlain : Member → Prop
  | named {ident : String} (hdigit : ident.toList.head?.any isAsciiDigit = false)
      (hclosing : ')' ∉ ident.toList) : Member.IsPlain (.named ident)
  | position (index : Nat) : Member.IsPlain (.position index)

/-- What stands in front of a closing parenthesis is told from what follows. -/
theorem span_parenthesis {name : List Char} (h : ')' ∉ name) (rest : List Char) :
    (name ++ ')' :: rest).takeWhile (· != ')') = name ∧
      (name ++ ')' :: rest).dropWhile (· != ')') = ')' :: rest := by
  have hname : ∀ c ∈ name, (c != ')') = true := by
    intro c hc
    have hne : c ≠ ')' := fun heq => h (heq ▸ hc)
    simpa using hne
  rw [List.takeWhile_append_of_pos hname, List.dropWhile_append_of_pos hname]
  simp

/-- **A member is read back.** -/
theorem readMember_name {member : Member} (h : member.IsPlain) (rest : List Char) :
    readMember (member.name.toList ++ ')' :: rest) = some (member, ')' :: rest) := by
  cases h with
  | named hdigit hclosing =>
    obtain ⟨htake, hdrop⟩ := span_parenthesis hclosing rest
    simp [readMember, Member.name, htake, hdrop, hdigit]
  | position index =>
    have hname : (Member.position index).name.toList = Nat.toDigits 10 index := String.toList_ofList
    have hdigits : ∀ c ∈ Nat.toDigits 10 index, (digit? 10 c).isSome := fun c =>
      digit?_isSome_of_mem_toDigits (by decide) (by decide)
    have hclosing : ')' ∉ Nat.toDigits 10 index := fun hmem =>
      absurd (hdigits _ hmem) (by decide)
    have hhead : (Nat.toDigits 10 index).head?.any isAsciiDigit = true := by
      obtain ⟨c, cs, hcs⟩ := List.exists_cons_of_ne_nil (Nat.toDigits_ne_nil (b := 10) (n := index))
      simp [hcs, isAsciiDigit_of_digit? (hdigits c (by simp [hcs]))]
    obtain ⟨htake, hdrop⟩ := span_parenthesis hclosing rest
    have hvalue : digitsValue? 10 (Nat.toDigits 10 index) = some index :=
      digitsValue?_toDigits (by decide) (by decide) index
    simp [readMember, hname, htake, hdrop, hhead, hvalue]

/-! ## Written tokens -/

namespace Token

@[simp]
theorem chars_word (text : String) : (Token.word text).chars = text.toList := rfl

@[simp]
theorem chars_sign (text : String) : (Token.sign text).chars = text.toList := rfl

/-- Tokens are written as if those behind a token were written behind it alone. -/
theorem charsAfter_append_cons (left token : Token) (tokens more : List Token) :
    charsAfter left (tokens ++ token :: more) =
      charsAfter left (tokens ++ [token]) ++ charsAfter token more := by
  induction tokens generalizing left with
  | nil => simp [charsAfter]
  | cons first tokens ih => simp [charsAfter, ih]

/-- Each token takes its own characters at least. -/
theorem length_le_length_charsAfter {token : Token} {tokens : List Token} (h : token ∈ tokens)
    (left : Token) : token.chars.length ≤ (charsAfter left tokens).length := by
  induction tokens generalizing left with
  | nil => cases h
  | cons first tokens ih =>
    simp only [charsAfter, List.length_append]
    rcases List.mem_cons.1 h with rfl | h
    · omega
    · have hmore := ih h first
      omega

end Token

open Token

/-- What is expected is passed over. -/
theorem after?_append (head rest : List Char) : Chars.after? head (head ++ rest) = some rest :=
  Chars.after?_eq_some_iff.2 rfl

/-- The tokens that follow an entry: a comma and the next entry, or the end of the list. -/
def EndsEntry (tokens : List Token) : Prop :=
  ∃ token more, tokens = token :: more ∧ (token = .sign "," ∨ token = .sign "]")

/-- The reader takes an entry for what it stands for, wherever the entry stands in a list. -/
def ReadsEntry {α : Type} (read : Token → List Char → Option (α × List Char))
    (express : α → List Token) (entry : α) : Prop :=
  ∀ left tokens, EndsEntry tokens →
    read left (charsAfter left (express entry ++ tokens)) =
      some (entry, charsAfter (.sign ")") tokens)

theorem commaSeparated_cons_cons (first next : List Token) (rest : List (List Token))
    (more : List Token) :
    commaSeparated (first :: next :: rest) ++ more =
      first ++ .sign "," :: (commaSeparated (next :: rest) ++ more) := by
  simp [commaSeparated, joined]

/-- **Entries are read one by one** up to the end of the list. -/
theorem readEntries_eq {α : Type} {read : Token → List Char → Option (α × List Char)}
    {express : α → List Token} {entries : List α} (hne : entries ≠ [])
    (hread : ∀ entry ∈ entries, ReadsEntry read express entry) {most : Nat}
    (hmost : entries.length ≤ most) (left : Token) (more : List Token) :
    readEntries read most left
        (charsAfter left (commaSeparated (entries.map express) ++ .sign "]" :: more)) =
      some (entries, charsAfter (.sign ")") (.sign "]" :: more)) := by
  induction entries generalizing most left with
  | nil => exact absurd rfl hne
  | cons entry entries ih =>
    obtain ⟨most, rfl⟩ : ∃ m, most = m + 1 := ⟨most - 1, by simp at hmost; omega⟩
    have hentry := hread entry List.mem_cons_self left
    cases entries with
    | nil =>
      have hlast := hentry (.sign "]" :: more) ⟨_, _, rfl, .inr rfl⟩
      have hstop : Chars.after? " ,".toList (charsAfter (.sign ")") (.sign "]" :: more)) = none := rfl
      rw [List.map_singleton, commaSeparated, joined]
      simp only [readEntries, hlast, hstop, Option.bind_eq_bind, Option.bind_some, Option.pure_def]
    | cons next entries =>
      have hfirst := hentry
        (.sign "," :: (commaSeparated (express next :: entries.map express) ++ .sign "]" :: more))
        ⟨_, _, rfl, .inl rfl⟩
      have hgo : ∀ tokens, Chars.after? " ,".toList (charsAfter (.sign ")") (.sign "," :: tokens)) =
        some (charsAfter (.sign ",") tokens) := fun tokens => rfl
      have hrest := ih (List.cons_ne_nil _ _)
        (fun entry hentry => hread entry (List.mem_cons_of_mem _ hentry))
        (Nat.le_of_succ_le_succ hmost) (.sign ",")
      rw [List.map_cons] at hrest
      rw [List.map_cons, List.map_cons, commaSeparated_cons_cons]
      simp only [readEntries, hfirst, hgo, hrest, Option.bind_eq_bind, Option.bind_some,
        Option.pure_def]

/-- There are no more entries than characters. -/
theorem length_le_length_commaSeparated {α : Type} (express : α → List Token) (entries : List α)
    (left : Token) (more : List Token) :
    entries.length ≤
      (charsAfter left (commaSeparated (entries.map express) ++ .sign "]" :: more)).length := by
  induction entries generalizing left with
  | nil => exact Nat.zero_le _
  | cons entry entries ih =>
    cases entries with
    | nil =>
      have hmem : Token.sign "]" ∈ express entry ++ [.sign "]"] := by simp
      have hclosing := length_le_length_charsAfter hmem left
      rw [List.map_singleton, commaSeparated, joined, charsAfter_append_cons, List.length_append]
      exact Nat.le_trans hclosing (Nat.le_add_right _ _)
    | cons next entries =>
      have hmem : Token.sign "," ∈ express entry ++ [.sign ","] := by simp
      have hcomma := length_le_length_charsAfter hmem left
      have hmore := ih (.sign ",")
      rw [List.map_cons, List.map_cons, commaSeparated_cons_cons, charsAfter_append_cons,
        List.length_append]
      rw [List.map_cons] at hmore
      exact Nat.le_trans (Nat.add_le_add hmore hcomma) (Nat.le_of_eq (Nat.add_comm _ _))

/-! ## Tags and fields -/

theorem readTag_tagExpression (tag : Tag) : ReadsEntry readTag Code.tagExpression tag := by
  intro left tokens _
  obtain ⟨name, text⟩ := tag
  have hname := readLiteral_chars name
  have htext := readLiteral_chars text
  have hwritten : charsAfter left (Code.tagExpression (name, text) ++ tokens) =
      charsAfter left [.sign "("] ++ ((Token.string name).chars ++ (" , ".toList ++
        ((Token.string text).chars ++ (")".toList ++ charsAfter (.sign ")") tokens)))) := by
    simp [Code.tagExpression, Code.inParentheses, Code.sign, charsAfter, gap, opensTightly,
      closesTightly]
  rw [hwritten]
  simp only [readTag, after?_append, hname, htext, Option.bind_eq_bind, Option.bind_some,
    Option.pure_def]

/-- The tags of a field are read back, none too. -/
theorem readTagList_tagsCall (tags : List Tag) {tokens : List Token} (h : EndsEntry tokens) :
    readTagList (charsAfter (.sign ")") (Code.tagsCall tags ++ tokens)) =
      some (tags, charsAfter (.sign ")") tokens) := by
  cases tags with
  | nil =>
    have hnone : Chars.after? " . with_tags (& [".toList (charsAfter (.sign ")") tokens) = none := by
      obtain ⟨token, more, rfl, rfl | rfl⟩ := h <;> rfl
    simp only [Code.tagsCall, List.isEmpty_nil, if_true, List.nil_append, readTagList, hnone]
  | cons tag tags =>
    have hwritten : charsAfter (.sign ")") (Code.tagsCall (tag :: tags) ++ tokens) =
        " . with_tags (& [".toList ++ charsAfter (.sign "[")
          (commaSeparated ((tag :: tags).map Code.tagExpression) ++
            .sign "]" :: (.sign ")" :: tokens)) := by
      simp [Code.tagsCall, Code.inParentheses, Code.inBrackets, Code.sign, Code.word, charsAfter,
        gap, opensTightly, closesTightly]
    have hend : charsAfter (.sign ")") (.sign "]" :: (.sign ")" :: tokens)) =
        "])".toList ++ charsAfter (.sign ")") tokens := rfl
    have hread := readEntries_eq (List.cons_ne_nil tag tags)
      (fun tag _ => readTag_tagExpression tag)
      (length_le_length_commaSeparated Code.tagExpression _ (.sign "[") (.sign ")" :: tokens))
      (.sign "[") (.sign ")" :: tokens)
    rw [hwritten]
    simp only [readTagList, after?_append, hread, hend, Option.bind_eq_bind, Option.bind_some,
      Option.pure_def]

/-- A truth value is read back. -/
theorem readFlag_append (flag : Bool) (rest : List Char) :
    readFlag ((if flag then "true" else "false").toList ++ rest) = some (flag, rest) := by
  cases flag <;> rfl

/-- **A field is read back.** -/
theorem readField_fieldExpression (library : List Token) {field : FieldDescriptor}
    (h : field.member.IsPlain) :
    ReadsEntry (readField library) (Code.fieldExpression library) field := by
  intro left tokens htokens
  have hwritten : charsAfter left (Code.fieldExpression library field ++ tokens) =
      charsAfter left (opening library) ++ ((Token.string field.name).chars ++
        (" , & self . ".toList ++ (field.member.name.toList ++ (") . with_public (".toList ++
          ((if field.isPublic then "true" else "false").toList ++ (")".toList ++
            charsAfter (.sign ")") (Code.tagsCall field.tags ++ tokens))))))) := by
    -- The library is not known, so the tokens in front of the name are kept in one piece.
    have hopening : Code.fieldExpression library field ++ tokens =
        Code.below (Code.below library "Field") "new" ++ .sign "(" :: (.string field.name ::
          (Code.sign "," ++ Code.sign "&" ++ Code.word "self" ++ Code.sign "." ++
            .word field.member.name :: (Code.sign ")" ++ Code.sign "." ++ Code.word "with_public" ++
              Code.inParentheses (Code.word (if field.isPublic then "true" else "false")) ++
                (Code.tagsCall field.tags ++ tokens)))) := by
      simp [Code.fieldExpression, Code.memberToken, Code.inParentheses, Code.sign, Code.word]
    rw [hopening, charsAfter_append_cons]
    simp [opening, Code.inParentheses, Code.sign, Code.word, charsAfter, gap, opensTightly,
      closesTightly]
  have hname := readLiteral_chars field.name
  have hmember : ∀ rest, readMember (field.member.name.toList ++ (") . with_public (".toList ++ rest)) =
      some (field.member, ") . with_public (".toList ++ rest) := fun rest => readMember_name h _
  have hflag := readFlag_append field.isPublic
  have htags := readTagList_tagsCall field.tags htokens
  rw [hwritten]
  simp only [readField, after?_append, hname, hmember, hflag, htags, Option.bind_eq_bind,
    Option.bind_some, Option.pure_def]

/-! ## The list of fields -/

/-- The list of fields as it is written behind its opening bracket. -/
def fieldListChars (record : RecordDescriptor) : List Char :=
  charsAfter (.sign "[") (Code.fieldList record ++ [.sign "]"])

theorem toList_write_fieldsBody (record : RecordDescriptor) :
    (write (Code.fieldsBody record)).toList =
      ":: std :: vec ! [".toList ++ fieldListChars record := by
  simp [Code.fieldsBody, Code.std, Code.below, Code.inBrackets, Code.sign, Code.word, write,
    charsAfter, gap, opensTightly, closesTightly, fieldListChars]

/-- A list with fields in it is more than its end. -/
theorem fieldListChars_ne {record : RecordDescriptor} (h : record.fields ≠ []) :
    fieldListChars record ≠ [']'] := by
  obtain ⟨field, fields, hfields⟩ := List.exists_cons_of_ne_nil h
  have hname : Token.string field.name ∈ Code.fieldExpression record.library field := by
    simp [Code.fieldExpression, Code.inParentheses, Code.sign]
  have hmem : Token.string field.name ∈ Code.fieldList record ++ [.sign "]"] := by
    rw [Code.fieldList, hfields]
    cases fields <;> simp [commaSeparated, joined, hname]
  have hlength := length_le_length_charsAfter hmem (.sign "[")
  intro heq
  rw [← fieldListChars, heq] at hlength
  simp [chars] at hlength

/-- **The fields are read back** from the body that lists them. -/
theorem readFields_write {record : RecordDescriptor}
    (h : ∀ field ∈ record.fields, field.member.IsPlain) :
    readFields record.library (write (Code.fieldsBody record)) = some record.fields := by
  rw [readFields, toList_write_fieldsBody, after?_append]
  by_cases hnil : record.fields = []
  · have hempty : fieldListChars record = [']'] := by
      simp [fieldListChars, Code.fieldList, hnil, commaSeparated, joined, charsAfter, gap,
        opensTightly, closesTightly]
    simp [hempty, hnil]
  · have hread : readEntries (readField record.library) (fieldListChars record).length (.sign "[")
        (fieldListChars record) = some (record.fields, [']']) :=
      readEntries_eq hnil
        (fun field hfield => readField_fieldExpression record.library (h field hfield))
        (length_le_length_commaSeparated (Code.fieldExpression record.library) _ (.sign "[") [])
        (.sign "[") []
    simp [fieldListChars_ne hnil, hread]

/-! ## The code around the list -/

/-- The tokens of the code in front of the body that lists the fields, but for the brace. -/
def codeBefore (record : RecordDescriptor) : List Token :=
  let parameters := record.generics.parameters
  Code.inBrackets (Code.word "automatically_derived") ++ Code.word "impl" ++
    Code.parameterList (Code.declaration record.library) parameters ++
    Code.below record.library "Structured" ++ Code.word "for" ++ Code.word record.ident ++
    Code.parameterList Code.mention parameters ++
    Code.whereClause record.generics.predicates ++ Code.sign "\x7b" ++
    Code.words ["fn", "fields"] ++ Code.receiver ++ Code.sign "->" ++
    Code.std ["std", "vec", "Vec"] ++ Code.sign "<" ++ Code.withLifetime record.library "Field" ++
    Code.sign ">>"

/-- The tokens of the code behind that body, but for the brace. -/
def codeAfter (record : RecordDescriptor) : List Token :=
  Code.typeNameMethod record ++ Code.sign "\x7d" ++
    Code.implementation record "Checkable" (Code.valueMethod record)

/-- The body that lists the fields stands in braces in the code. -/
theorem code_eq (record : RecordDescriptor) :
    record.code = .sign "#" :: (codeBefore record ++ .sign "\x7b" ::
      (Code.fieldsBody record ++ .sign "\x7d" :: codeAfter record)) := by
  simp [RecordDescriptor.code, Code.implementation, Code.fieldsMethod, codeBefore, codeAfter,
    Code.inBraces, Code.sign]

/-- The code as it is written, around the list of fields. -/
theorem toList_write_code (record : RecordDescriptor) :
    (write record.code).toList =
      '#' :: (charsAfter (.sign "#") (codeBefore record ++ [.sign "\x7b"]) ++
        (" :: std :: vec ! [".toList ++ (fieldListChars record ++
          charsAfter (.sign "]") (.sign "\x7d" :: codeAfter record)))) := by
  have hlist : charsAfter (.sign "[") (Code.fieldList record ++ .sign "]" :: .sign "\x7d" ::
      codeAfter record) =
      fieldListChars record ++ charsAfter (.sign "]") (.sign "\x7d" :: codeAfter record) :=
    charsAfter_append_cons _ _ _ _
  have hbody : charsAfter (.sign "\x7b") (Code.fieldsBody record ++ .sign "\x7d" ::
      codeAfter record) = " :: std :: vec ! [".toList ++ charsAfter (.sign "[")
        (Code.fieldList record ++ .sign "]" :: .sign "\x7d" :: codeAfter record) := by
    simp [Code.fieldsBody, Code.std, Code.below, Code.inBrackets, Code.sign, Code.word, charsAfter,
      gap, opensTightly, closesTightly]
  have hnumber_sign : (Token.sign "#").chars = ['#'] := rfl
  rw [code_eq, write, String.toList_ofList, charsAfter_append_cons, hbody, hlist, hnumber_sign,
    List.singleton_append]

/-- Nothing but the fields makes a difference to the list of fields. -/
theorem fieldListChars_inj {record other : RecordDescriptor} (hlibrary : other.library = record.library)
    (hrecord : ∀ field ∈ record.fields, field.member.IsPlain)
    (hother : ∀ field ∈ other.fields, field.member.IsPlain)
    (h : fieldListChars other = fieldListChars record) : other.fields = record.fields := by
  have hwrite : write (Code.fieldsBody other) = write (Code.fieldsBody record) := by
    rw [← String.toList_inj, toList_write_fieldsBody, toList_write_fieldsBody, h]
  have hread := readFields_write hother
  rw [hwrite, hlibrary, readFields_write hrecord] at hread
  exact (Option.some.inj hread).symm

/-- **Structs that agree in everything but their fields** have the same code if and only if they
have the same fields. -/
theorem write_code_eq_iff {record other : RecordDescriptor} (hident : other.ident = record.ident)
    (hlibrary : other.library = record.library) (hgenerics : other.generics = record.generics)
    (hrecord : ∀ field ∈ record.fields, field.member.IsPlain)
    (hother : ∀ field ∈ other.fields, field.member.IsPlain) :
    write other.code = write record.code ↔ other.fields = record.fields := by
  constructor
  · intro h
    have hbefore : codeBefore other = codeBefore record := by
      rw [codeBefore, codeBefore, hident, hlibrary, hgenerics]
    have hafter : codeAfter other = codeAfter record := by
      simp only [codeAfter, Code.typeNameMethod, Code.implementation, Code.valueMethod, hident,
        hlibrary, hgenerics]
    rw [← String.toList_inj, toList_write_code, toList_write_code, hbefore, hafter] at h
    refine fieldListChars_inj hlibrary hrecord hother ?_
    simpa using h
  · intro hfields
    obtain ⟨ident, generics, library, fields⟩ := record
    obtain ⟨ident', generics', library', fields'⟩ := other
    subst hident hlibrary hgenerics hfields
    rfl

/-- **The code determines the fields.** From the body that lists them they are read back, whatever
stands in their names and tags; and of structs that agree in everything else, two have the same
code if and only if they have the same fields. -/
theorem code_determines_fields {record : RecordDescriptor}
    (hrecord : ∀ field ∈ record.fields, field.member.IsPlain) :
    readFields record.library (write (Code.fieldsBody record)) = some record.fields ∧
      ∀ other : RecordDescriptor, other.ident = record.ident → other.library = record.library →
        other.generics = record.generics → (∀ field ∈ other.fields, field.member.IsPlain) →
          (write other.code = write record.code ↔ other.fields = record.fields) :=
  ⟨readFields_write hrecord, fun _ hident hlibrary hgenerics hother =>
    write_code_eq_iff hident hlibrary hgenerics hrecord hother⟩

/-- A struct with a quote in a name, and a tag that looks like code. -/
def quotingAccount : RecordDescriptor where
  ident := "Account"
  generics := ⟨[], []⟩
  library := [.word "checks"]
  fields := [⟨.named "mail", "e\"mail , &", true, [("validate", "\x00" ++ "7)]) , checks")]⟩,
    ⟨.position 1, "1", false, []⟩]

/-- The general statement, for a struct and the same one without its fields. -/
theorem code_determines_fields_of_account :
    (∀ field ∈ quotingAccount.fields, field.member.IsPlain) ∧
      readFields [.word "checks"] (write (Code.fieldsBody quotingAccount)) =
        some quotingAccount.fields ∧
      write { quotingAccount with fields := [] }.code ≠ write quotingAccount.code := by
  have hplain : ∀ field ∈ quotingAccount.fields, field.member.IsPlain := by
    simp only [quotingAccount, List.forall_mem_cons]
    exact ⟨.named (by decide) (by decide), .position 1, nofun⟩
  obtain ⟨hread, hcode⟩ := code_determines_fields hplain
  have hempty := hcode { quotingAccount with fields := [] } rfl rfl rfl nofun
  exact ⟨hplain, hread, fun h => List.cons_ne_nil _ _ (hempty.1 h).symm⟩

end FieldChecks.Derive
