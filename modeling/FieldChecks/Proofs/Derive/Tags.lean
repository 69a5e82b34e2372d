import FieldChecks.Derive.Tags
import FieldChecks.Proofs.Derive.Path

/-!
# Tags of fields — what attributes say

What an attribute says about tags is a row of findings: its pairs in their
order, up to what is malformed in it (`Tells`, `Attribute.Says`). The
attributes of a field say this one after the other (`Say`), and there is
one row of findings that they say (`say_iff`). They hold tags if all of
their findings are tags, under names that differ (`HoldTags`).
-/

namespace FieldChecks.Derive

/-! ## Pairs -/

/-- **What tokens hold in front**: a pair, or what is wrong with it. The path is looked at before
what stands behind it. -/
inductive PairRead : List Token → Except TagFault (Tag × List Token) → Prop
  /-- A name, an equals sign, and a text. -/
  | pair {name : Ident} {text : String} {rest : List Token} :
      PairRead (.word name.text :: .sign "=" :: .string text :: rest)
        (.ok ((name.text, text), rest))
  | noPath {tokens : List Token} {fault : PathFault} (hpath : PathRead tokens (.error fault)) :
      PairRead tokens (.error (.noPath fault))
  /-- A path of several names, or one with a double colon in front. -/
  | noName {path : NamePath} {tokens rest : List Token} (hpath : PathRead tokens (.ok (path, rest)))
      (hname : path.ident? = none) : PairRead tokens (.error .noName)
  /-- A name without an equals sign behind it. -/
  | noValue {name : Ident} {rest : List Token} (hend : ¬ StartsWithColons rest)
      (hno : ∀ more, rest ≠ .sign "=" :: more) :
      PairRead (.word name.text :: rest) (.error .noValue)
  /-- Something else behind the equals sign. -/
  | noText {name : Ident} {rest : List Token} (hno : ∀ text more, rest ≠ .string text :: more) :
      PairRead (.word name.text :: .sign "=" :: rest) (.error (.noText (.of rest)))

variable {tokens rest : List Token}

theorem readPair_word {name : Ident} (hend : ¬ StartsWithColons rest) :
    readPair (.word name.text :: rest) = name.readTag rest := by
  rw [readPair, readNamePath_word hend]
  rfl

theorem readPair_of_read {result : Except TagFault (Tag × List Token)}
    (h : PairRead tokens result) : readPair tokens = result := by
  have hequals : ∀ more, ¬ StartsWithColons (.sign "=" :: more) := by simp [StartsWithColons]
  cases h with
  | pair => exact readPair_word (hequals _)
  | noPath hpath => rw [readPair, readNamePath_eq_iff.2 hpath]
  | noName hpath hname => simp only [readPair, readNamePath_eq_iff.2 hpath, hname]
  | noValue hend hno =>
    rw [readPair_word hend]
    unfold Ident.readTag
    split
    · exact absurd rfl (hno _)
    · exact absurd rfl (hno _)
    · rfl
  | noText hno =>
    rw [readPair_word (hequals _)]
    unfold Ident.readTag
    split
    · rename_i heq
      cases heq
      exact absurd rfl (hno _ _)
    · rename_i heq
      cases heq
      rfl
    · rename_i hother
      exact absurd rfl (hother _)

theorem exists_pairRead (tokens : List Token) : ∃ result, PairRead tokens result := by
  cases hread : readNamePath tokens with
  | error fault => exact ⟨_, .noPath (readNamePath_eq_iff.1 hread)⟩
  | ok read =>
    obtain ⟨path, rest⟩ := read
    have hpath := readNamePath_eq_iff.1 hread
    cases hname : path.ident? with
    | none => exact ⟨_, .noName hpath hname⟩
    | some name =>
      cases hpath with
      | path hend =>
        rw [NamePath.tokens_of_ident? hname, List.singleton_append]
        by_cases hequals : ∃ more, rest = .sign "=" :: more
        · obtain ⟨more, rfl⟩ := hequals
          by_cases htext : ∃ text last, more = .string text :: last
          · obtain ⟨text, last, rfl⟩ := htext
            exact ⟨_, .pair⟩
          · exact ⟨_, .noText fun text last h => htext ⟨text, last, h⟩⟩
        · exact ⟨_, .noValue hend fun more h => hequals ⟨more, h⟩⟩

/-- **Reading a pair** comes to what the tokens hold in front. -/
theorem readPair_eq_iff {result : Except TagFault (Tag × List Token)} :
    readPair tokens = result ↔ PairRead tokens result :=
  eq_iff_of_exists (exists_pairRead tokens) readPair_of_read

/-- A pair takes tokens away. -/
theorem length_lt_of_readPair {tag : Tag} (h : readPair tokens = .ok (tag, rest)) :
    rest.length < tokens.length := by
  cases readPair_eq_iff.1 h with
  | pair =>
    simp only [List.length_cons]
    omega

/-! ## Arguments -/

/-- **What the arguments of an attribute tell**: their pairs with commas between them, up to what is
malformed. There may be a comma behind the last pair. -/
inductive Tells : List Token → List (Except TagFault Tag) → Prop
  | nothing : Tells [] []
  /-- No pair where one is expected. -/
  | fault {tokens : List Token} {fault : TagFault} (hsome : tokens ≠ [])
      (hpair : PairRead tokens (.error fault)) : Tells tokens [.error fault]
  | last {tokens : List Token} {tag : Tag} (hpair : PairRead tokens (.ok (tag, []))) :
      Tells tokens [.ok tag]
  | next {tokens rest : List Token} {tag : Tag} {found : List (Except TagFault Tag)}
      (hpair : PairRead tokens (.ok (tag, .sign "," :: rest))) (hrest : Tells rest found) :
      Tells tokens (.ok tag :: found)
  /-- Something else behind a pair. -/
  | noComma {tokens rest : List Token} {token : Token} {tag : Tag}
      (hpair : PairRead tokens (.ok (tag, token :: rest))) (hno : token ≠ .sign ",") :
      Tells tokens [.ok tag, .error .noComma]

/-- The findings in arguments, from at most `most` pairs. -/
def findingsWithin : (most : Nat) → List Token → List (Except TagFault Tag)
  | 0, _ => []
  | most + 1, tokens =>
    if tokens.isEmpty then []
    else match readPair tokens with
      | .error fault => [.error fault]
      | .ok (tag, rest) => .ok tag :: match rest with
        | [] => []
        | token :: rest =>
          if token = .sign "," then findingsWithin most rest else [.error .noComma]

variable {found : List (Except TagFault Tag)}

/-- A pair is the first finding, and the others come from behind it. -/
theorem findingsWithin_succ {most : Nat} {tag : Tag} (hpair : readPair tokens = .ok (tag, rest)) :
    findingsWithin (most + 1) tokens = .ok tag :: match rest with
      | [] => []
      | token :: rest =>
        if token = .sign "," then findingsWithin most rest else [.error .noComma] := by
  have hsome : tokens ≠ [] :=
    List.ne_nil_of_length_pos (Nat.zero_lt_of_lt (length_lt_of_readPair hpair))
  rw [findingsWithin, if_neg (by simpa using hsome), hpair]

theorem tells_findingsWithin {most : Nat} (hlength : tokens.length ≤ most) :
    Tells tokens (findingsWithin most tokens) := by
  -- what follows a comma is shorter than the tokens by more than one, so it has enough left
  induction most generalizing tokens with
  | zero =>
    obtain rfl : tokens = [] := List.length_eq_zero_iff.1 (Nat.le_zero.1 hlength)
    exact .nothing
  | succ most ih =>
    by_cases hsome : tokens = []
    · subst hsome
      exact .nothing
    · cases hpair : readPair tokens with
      | error fault =>
        rw [findingsWithin, if_neg (by simpa using hsome), hpair]
        exact .fault hsome (readPair_eq_iff.1 hpair)
      | ok read =>
        obtain ⟨tag, rest⟩ := read
        have hshorter := length_lt_of_readPair hpair
        rw [findingsWithin_succ hpair]
        have hread := readPair_eq_iff.1 hpair
        cases rest with
        | nil => exact .last hread
        | cons token rest =>
          by_cases hcomma : token = .sign ","
          · subst hcomma
            refine .next hread (ih ?_)
            simp only [List.length_cons] at hshorter
            omega
          · simp only [if_neg hcomma]
            exact .noComma hread hcomma

/-- A pair counts for one of the tokens, so that enough is left for what follows it. -/
theorem exists_eq_succ_of_readPair {most : Nat} {tag : Tag}
    (hpair : readPair tokens = .ok (tag, rest)) (hlength : tokens.length ≤ most) :
    ∃ fewer, most = fewer + 1 ∧ rest.length ≤ fewer := by
  have hshorter := length_lt_of_readPair hpair
  exact ⟨most - 1, by omega, by omega⟩

theorem findingsWithin_of_tells (h : Tells tokens found) {most : Nat}
    (hlength : tokens.length ≤ most) : findingsWithin most tokens = found := by
  induction h generalizing most with
  | nothing => cases most <;> rfl
  | fault hsome hpair =>
    cases most with
    | zero => exact absurd (List.length_eq_zero_iff.1 (Nat.le_zero.1 hlength)) hsome
    | succ most => rw [findingsWithin, if_neg (by simpa using hsome), readPair_of_read hpair]
  | last hpair =>
    have hread := readPair_of_read hpair
    obtain ⟨fewer, rfl, -⟩ := exists_eq_succ_of_readPair hread hlength
    rw [findingsWithin_succ hread]
  | next hpair _ ih =>
    have hread := readPair_of_read hpair
    obtain ⟨fewer, rfl, hrest⟩ := exists_eq_succ_of_readPair hread hlength
    rw [findingsWithin_succ hread, ← ih (Nat.le_of_succ_le hrest)]
    exact congrArg _ (if_pos rfl)
  | noComma hpair hno =>
    have hread := readPair_of_read hpair
    obtain ⟨fewer, rfl, -⟩ := exists_eq_succ_of_readPair hread hlength
    rw [findingsWithin_succ hread]
    exact congrArg _ (if_neg hno)

/-- **The arguments of an attribute** tell one row of findings. -/
theorem findingsWithin_eq_iff :
    findingsWithin tokens.length tokens = found ↔ Tells tokens found :=
  eq_iff_of_exists ⟨_, tells_findingsWithin (Nat.le_refl _)⟩ fun h =>
    findingsWithin_of_tells h (Nat.le_refl _)

/-- No finding is that a name is repeated. -/
theorem Tells.isDuplicate_eq_false {fault : TagFault} (h : Tells tokens found)
    (hfault : .error fault ∈ found) : fault.isDuplicate = false := by
  induction h with
  | nothing => cases hfault
  | fault _ hpair =>
    cases List.mem_singleton.1 hfault
    cases hpair <;> rfl
  | last _ => cases List.mem_singleton.1 hfault
  | next _ _ ih =>
    rcases List.mem_cons.1 hfault with hfirst | hrest
    · cases hfirst
    · exact ih hrest
  | noComma _ _ =>
    rcases List.mem_cons.1 hfault with hfirst | hrest
    · cases hfirst
    · cases List.mem_singleton.1 hrest
      rfl

/-! ## Attributes -/

/-- **What an attribute says about tags.** -/
inductive Attribute.Says (entry : Attribute) : List (Except TagFault Tag) → Prop
  /-- An attribute of another path says nothing. -/
  | other (hpath : entry.path.isIdent "tag" = false) : entry.Says []
  | noArguments (hpath : entry.path.isIdent "tag" = true) (hbody : entry.body = .nothing) :
      entry.Says [.error .noArguments]
  | valueInstead (hpath : entry.path.isIdent "tag" = true) (hbody : entry.body = .value) :
      entry.Says [.error .valueInstead]
  /-- Arguments in brackets of any kind. -/
  | arguments {delimiter : Delimiter} {tokens : List Token} {found : List (Except TagFault Tag)}
      (hpath : entry.path.isIdent "tag" = true) (hbody : entry.body = .arguments delimiter tokens)
      (htells : Tells tokens found) : entry.Says found

/-- What attributes say about tags, one after the other. -/
def Say (attributes : List Attribute) (found : List (Except TagFault Tag)) : Prop :=
  ∃ lists, List.Forall₂ Attribute.Says attributes lists ∧ found = lists.flatten

/-- **The tags that attributes hold**: they say nothing else, and the names differ. -/
structure HoldTags (attributes : List Attribute) (tags : List Tag) : Prop where
  say : Say attributes (tags.map .ok)
  nodup : (tags.map Prod.fst).Nodup

/-- The findings in an attribute. -/
def Attribute.findings (entry : Attribute) : List (Except TagFault Tag) :=
  if entry.path.isIdent "tag" then
    match entry.body with
    | .nothing => [.error .noArguments]
    | .value => [.error .valueInstead]
    | .arguments _ tokens => findingsWithin tokens.length tokens
  else []

/-- The findings in the attributes of a field, in their order. -/
def findings (attributes : List Attribute) : List (Except TagFault Tag) :=
  attributes.flatMap Attribute.findings

theorem Attribute.findings_eq_iff {entry : Attribute} :
    entry.findings = found ↔ entry.Says found := by
  constructor
  · rintro rfl
    rw [Attribute.findings]
    split
    · rename_i hpath
      split
      · rename_i hbody
        exact .noArguments hpath hbody
      · rename_i hbody
        exact .valueInstead hpath hbody
      · rename_i hbody
        exact .arguments hpath hbody (findingsWithin_eq_iff.1 rfl)
    · rename_i hpath
      exact .other (by simpa using hpath)
  · rintro (hpath | ⟨hpath, hbody⟩ | ⟨hpath, hbody⟩ | ⟨hpath, hbody, htells⟩)
    · rw [Attribute.findings, if_neg (Bool.eq_false_iff.1 hpath)]
    · rw [Attribute.findings, if_pos hpath, hbody]
    · rw [Attribute.findings, if_pos hpath, hbody]
    · rw [Attribute.findings, if_pos hpath, hbody]
      exact findingsWithin_eq_iff.2 htells

variable {attributes : List Attribute}

/-- What members say one by one is what is found in them. -/
theorem forall₂_iff_map_eq {α β : Type} {f : α → β} {R : α → β → Prop}
    (h : ∀ {a b}, f a = b ↔ R a b) {as : List α} {bs : List β} :
    List.Forall₂ R as bs ↔ as.map f = bs := by
  rw [← List.forall₂_eq_eq_eq, List.forall₂_map_left_iff]
  simp only [h]

/-- **The attributes of a field** say one row of findings. -/
theorem say_iff : Say attributes found ↔ found = findings attributes := by
  simp only [Say, forall₂_iff_map_eq Attribute.findings_eq_iff, exists_eq_left', findings,
    List.flatMap_def]

/-- No finding is that a name is repeated. -/
theorem isDuplicate_of_mem_findings {fault : TagFault}
    (h : .error fault ∈ findings attributes) : fault.isDuplicate = false := by
  obtain ⟨entry, -, hentry⟩ := List.mem_flatMap.1 h
  have hsays : entry.Says entry.findings := Attribute.findings_eq_iff.1 rfl
  generalize entry.findings = found at hentry hsays
  cases hsays with
  | other _ => cases hentry
  | noArguments _ _ =>
    cases List.mem_singleton.1 hentry
    rfl
  | valueInstead _ _ =>
    cases List.mem_singleton.1 hentry
    rfl
  | arguments _ _ htells => exact htells.isDuplicate_eq_false hentry

end FieldChecks.Derive
