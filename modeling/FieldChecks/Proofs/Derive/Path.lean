import FieldChecks.Derive.Path
import FieldChecks.Proofs.Result

/-!
# Paths of names — what is read of tokens

A path is written as its names with double colons between them
(`NamePath.tokens`), and is read off the front of tokens if no further
double colon follows. Tokens without a path in front stop the reading
where a name is missing: at once, or behind a double colon. There is
nothing else that can happen (`PathRead`, `readNamePath_eq_iff`).
-/

namespace FieldChecks.Derive

/-! ## What is written -/

/-- Names as they are written behind a first one. -/
def othersTokens (others : List Ident) : List Token :=
  others.flatMap fun ident => [.sign "::", .word ident.text]

/-- The double colon in front of a path, if there is one. -/
def rootTokens (fromRoot : Bool) : List Token :=
  if fromRoot then [.sign "::"] else []

/-- A path as it is written. -/
def NamePath.tokens (path : NamePath) : List Token :=
  rootTokens path.fromRoot ++ .word path.first.text :: othersTokens path.others

/-- The tokens go on with a name. -/
def StartsWithIdent (tokens : List Token) : Prop :=
  ∃ (ident : Ident) (rest : List Token), tokens = .word ident.text :: rest

/-- The tokens go on with a double colon. -/
def StartsWithColons (tokens : List Token) : Prop :=
  tokens.head? = some (.sign "::")

/-- **What tokens hold in front**: a path, or the place where a name is missing. -/
inductive PathRead : List Token → Except PathFault (NamePath × List Token) → Prop
  | path {path : NamePath} {rest : List Token} (hend : ¬ StartsWithColons rest) :
      PathRead (path.tokens ++ rest) (.ok (path, rest))
  /-- No name at the front. -/
  | noStart {fromRoot : Bool} {rest : List Token} (hno : ¬ StartsWithIdent rest)
      (hroot : fromRoot = false → ¬ StartsWithColons rest) :
      PathRead (rootTokens fromRoot ++ rest) (.error (.noStart (.of rest)))
  /-- No name behind a double colon. -/
  | noSegment {path : NamePath} {rest : List Token} (hno : ¬ StartsWithIdent rest) :
      PathRead (path.tokens ++ .sign "::" :: rest) (.error (.noSegment (.of rest)))

/-! ## Names -/

variable {tokens rest : List Token} {ident : Ident} {others : List Ident}

theorem cutIdent?_word (ident : Ident) (rest : List Token) :
    cutIdent? (.word ident.text :: rest) = some (ident, rest) := by
  rw [cutIdent?, dif_pos ident.valid]

theorem cutIdent?_eq_none (h : ¬ StartsWithIdent tokens) : cutIdent? tokens = none := by
  unfold cutIdent?
  split
  · rename_i word rest
    exact dif_neg fun hvalid => h ⟨⟨word, hvalid⟩, rest, rfl⟩
  · rfl

theorem othersTokens_cons (ident : Ident) (others : List Ident) :
    othersTokens (ident :: others) = .sign "::" :: .word ident.text :: othersTokens others :=
  rfl

/-- Names are read as far as they go. -/
theorem readOthers_append (hend : ¬ StartsWithColons rest) :
    readOthers (othersTokens others ++ rest) = .ok (others, rest) := by
  induction others with
  | nil =>
    rw [othersTokens, List.flatMap_nil, List.nil_append]
    unfold readOthers
    split
    · exact absurd rfl hend
    · exact absurd rfl hend
    · rfl
  | cons ident others ih =>
    rw [othersTokens_cons, List.cons_append, List.cons_append, readOthers, dif_pos ident.valid, ih]
    rfl

/-- A name that is missing behind a double colon is told. -/
theorem readOthers_append_colons (hno : ¬ StartsWithIdent rest) :
    readOthers (othersTokens others ++ .sign "::" :: rest) = .error (.noSegment (.of rest)) := by
  induction others with
  | nil =>
    rw [othersTokens, List.flatMap_nil, List.nil_append]
    cases rest with
    | nil => rfl
    | cons token rest =>
      cases token with
      | word text =>
        rw [readOthers, dif_neg fun hvalid => hno ⟨⟨text, hvalid⟩, rest, rfl⟩]
      | sign text => rfl
      | string content => rfl
  | cons ident others ih =>
    rw [othersTokens_cons, List.cons_append, List.cons_append, readOthers, dif_pos ident.valid, ih]
    rfl

/-- Names go on up to something else, or up to a double colon without a name behind it. -/
theorem exists_others (tokens : List Token) : ∃ others rest,
    tokens = othersTokens others ++ rest ∧ ¬ StartsWithColons rest ∨
      tokens = othersTokens others ++ .sign "::" :: rest ∧ ¬ StartsWithIdent rest := by
  induction tokens using readOthers.induct with
  | case1 word rest hvalid ih =>
    -- one more name in front of those that follow
    obtain ⟨others, last, h⟩ := ih
    refine ⟨⟨word, hvalid⟩ :: others, last, h.imp ?_ ?_⟩
    · rintro ⟨rfl, hend⟩
      exact ⟨rfl, hend⟩
    · rintro ⟨rfl, hno⟩
      exact ⟨rfl, hno⟩
  | case2 word rest hvalid =>
    refine ⟨[], .word word :: rest, .inr ⟨rfl, ?_⟩⟩
    rintro ⟨ident, _, h⟩
    cases h
    exact hvalid ident.valid
  | case3 rest hword =>
    refine ⟨[], rest, .inr ⟨rfl, ?_⟩⟩
    rintro ⟨ident, last, rfl⟩
    exact hword _ _ rfl
  | case4 tokens _ hcolons =>
    refine ⟨[], tokens, .inl ⟨rfl, ?_⟩⟩
    intro h
    obtain ⟨rest, rfl⟩ := List.head?_eq_some_iff.1 h
    exact hcolons rest rfl

/-! ## Paths -/

theorem readNamePath_append {fromRoot : Bool} (hroot : fromRoot = false → ¬ StartsWithColons rest) :
    readNamePath (rootTokens fromRoot ++ rest) = readNamePathFrom fromRoot rest := by
  cases fromRoot with
  | true => rfl
  | false =>
    rw [rootTokens, if_neg Bool.false_ne_true, List.nil_append]
    unfold readNamePath
    split
    · exact absurd rfl (hroot rfl)
    · rfl

theorem readNamePath_of_read {result : Except PathFault (NamePath × List Token)}
    (h : PathRead tokens result) : readNamePath tokens = result := by
  have hword : ∀ (path : NamePath) (rest : List Token),
      readNamePath (path.tokens ++ rest) = readNamePathFrom path.fromRoot
        (.word path.first.text :: (othersTokens path.others ++ rest)) := by
    intro path rest
    rw [NamePath.tokens, List.append_assoc, List.cons_append, readNamePath_append]
    simp [StartsWithColons]
  cases h with
  | path hend =>
    rw [hword, readNamePathFrom, cutIdent?_word]
    simp [readOthers_append hend, Except.map]
  | noStart hno hroot => rw [readNamePath_append hroot, readNamePathFrom, cutIdent?_eq_none hno]
  | noSegment hno =>
    rw [hword, readNamePathFrom, cutIdent?_word]
    simp [readOthers_append_colons hno, Except.map]

theorem exists_pathRead (tokens : List Token) : ∃ result, PathRead tokens result := by
  obtain ⟨fromRoot, names, rfl, hroot⟩ : ∃ fromRoot names, tokens = rootTokens fromRoot ++ names ∧
      (fromRoot = false → ¬ StartsWithColons names) := by
    by_cases hcolons : StartsWithColons tokens
    · obtain ⟨names, rfl⟩ := List.head?_eq_some_iff.1 hcolons
      exact ⟨true, names, rfl, nofun⟩
    · exact ⟨false, tokens, rfl, fun _ => hcolons⟩
  by_cases hident : StartsWithIdent names
  · obtain ⟨first, behind, rfl⟩ := hident
    obtain ⟨others, rest, ⟨rfl, hend⟩ | ⟨rfl, hno⟩⟩ := exists_others behind
    · have hread : PathRead (NamePath.tokens ⟨fromRoot, first, others⟩ ++ rest) _ := .path hend
      rw [NamePath.tokens, List.append_assoc, List.cons_append] at hread
      exact ⟨_, hread⟩
    · have hread : PathRead (NamePath.tokens ⟨fromRoot, first, others⟩ ++ .sign "::" :: rest) _ :=
        .noSegment hno
      rw [NamePath.tokens, List.append_assoc, List.cons_append] at hread
      exact ⟨_, hread⟩
  · exact ⟨_, .noStart hident hroot⟩

/-- **Reading a path** comes to what the tokens hold in front. -/
theorem readNamePath_eq_iff {result : Except PathFault (NamePath × List Token)} :
    readNamePath tokens = result ↔ PathRead tokens result :=
  eq_iff_of_exists (exists_pathRead tokens) readNamePath_of_read

/-! ## Single names -/

/-- A path that is nothing but a name is written as that name. -/
theorem NamePath.tokens_of_ident? {path : NamePath} (h : path.ident? = some ident) :
    path.tokens = [.word ident.text] := by
  obtain ⟨fromRoot, first, others⟩ := path
  rw [NamePath.ident?] at h
  split at h
  · cases h
  · rename_i hplain
    obtain ⟨rfl, rfl⟩ : fromRoot = false ∧ others = [] := by simpa using hplain
    cases h
    rfl

/-- A name is read as the path that is nothing but it. -/
theorem readNamePath_word (hend : ¬ StartsWithColons rest) :
    readNamePath (.word ident.text :: rest) = .ok (⟨false, ident, []⟩, rest) := by
  have hread : PathRead (NamePath.tokens ⟨false, ident, []⟩ ++ rest) _ := .path hend
  exact readNamePath_of_read hread

end FieldChecks.Derive
