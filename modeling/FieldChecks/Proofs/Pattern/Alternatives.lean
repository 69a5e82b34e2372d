import FieldChecks.Checks.Pattern
import FieldChecks.Proofs.Pattern.Language
import FieldChecks.Proofs.Result

/-!
# Alternatives — what is read where characters stand for themselves

Outside of classes all but twelve characters stand for themselves. This
file follows the reader through a pattern of words of such characters,
with bars between them and both ends of the text around them: one step
for each sign, and with these whole words (`patternRest_word`) and lists of
words (`patternRest_words`). A level of the reader is told by the
expressions that it holds (`Level.branches`) and by how deep its parts are
nested (`Level.NestsWithin`); where they stand makes no difference. So the
pattern is read as the choice between its words, unless that is too large
(`read_anchored`), and the words are what it matches
(`mem_language_anchoredRegex_iff`).
-/

namespace FieldChecks.Pattern

/-! ## Nesting -/

namespace Nesting

theorem firstBelow_eq_none_of_succ {levels : Nat} {parts : List Nesting}
    (h : firstBelow levels parts = none) : firstBelow (levels + 1) parts = none := by
  induction levels generalizing parts with
  | zero =>
    obtain rfl : parts = [] := List.head?_eq_none_iff.1 h
    rfl
  | succ levels ih =>
    rw [firstBelow, List.findSome?_eq_none_iff] at h ⊢
    exact fun part hpart => ih (h part hpart)

/-- What does not nest too deep for some levels does not for more of them. -/
theorem firstBelow_eq_none_of_le {levels more : Nat} {parts : List Nesting} (hle : levels ≤ more)
    (h : firstBelow levels parts = none) : firstBelow more parts = none := by
  induction hle with
  | refl => exact h
  | step _ ih => exact firstBelow_eq_none_of_succ ih

theorem firstBelow_singleton {levels : Nat} {span : Span} {inside : List Nesting} :
    firstBelow (levels + 1) [.part span inside] = firstBelow levels inside := by
  rw [firstBelow, List.findSome?_singleton]
  rfl

theorem firstBelow_append_eq_none_iff {levels : Nat} {parts others : List Nesting} :
    firstBelow levels (parts ++ others) = none ↔
      firstBelow levels parts = none ∧ firstBelow levels others = none := by
  cases levels with
  | zero => simp [firstBelow]
  | succ levels => simp [firstBelow, List.findSome?_append]

theorem firstBelow_flatMap_eq_none {α : Type} {levels : Nat} {xs : List α} {f : α → List Nesting}
    (h : ∀ x ∈ xs, firstBelow levels (f x) = none) : firstBelow levels (xs.flatMap f) = none := by
  induction xs with
  | nil => cases levels <;> rfl
  | cons x xs ih =>
    obtain ⟨hx, hxs⟩ := List.forall_mem_cons.1 h
    exact firstBelow_append_eq_none_iff.2 ⟨hx, ih hxs⟩

end Nesting

namespace Reader

/-! ## Levels -/

namespace Level

variable {level : Level} {levels : Nat} {ending : Place}

/-- The alternatives of a level as expressions, the one that is still being read as the last. -/
def branches (level : Level) : List Regex :=
  level.alternatives.reverse.map (·.regex) ++
    [.sequences (level.elements.reverse.filterMap Element.regex?)]

/-- **A level is the choice** between its alternatives. -/
theorem piece_regex {first : Regex} {others : List Regex} (h : level.branches = first :: others) :
    (level.piece ending).regex = .choices first others := by
  rw [branches] at h
  rw [piece]
  cases halternatives : level.alternatives.reverse with
  | nil =>
    rw [halternatives] at h
    obtain ⟨rfl, rfl⟩ := List.cons.inj h
    rfl
  | cons found rest =>
    rw [halternatives] at h
    obtain ⟨rfl, rfl⟩ := List.cons.inj h
    simp [last]

/-- The elements of a level have no parts below some levels, and its alternatives, which may be made
of several elements, none below one more. -/
structure NestsWithin (level : Level) (levels : Nat) : Prop where
  elements : ∀ element ∈ level.elements, Nesting.firstBelow levels element.nested = none
  alternatives : ∀ piece ∈ level.alternatives, Nesting.firstBelow (levels + 1) piece.nested = none

theorem nestsWithin_startingAt {start : Place} : (startingAt start).NestsWithin levels :=
  ⟨List.forall_mem_nil _, List.forall_mem_nil _⟩

theorem NestsWithin.push {element : Element} (h : level.NestsWithin levels)
    (helement : Nesting.firstBelow levels element.nested = none) :
    (level.push element).NestsWithin levels :=
  ⟨List.forall_mem_cons.2 ⟨helement, h.elements⟩, h.alternatives⟩

theorem NestsWithin.last (h : level.NestsWithin levels) :
    Nesting.firstBelow (levels + 1) (level.last ending).nested = none := by
  have hflat : Nesting.firstBelow levels (level.elements.reverse.flatMap Element.nested) = none :=
    Nesting.firstBelow_flatMap_eq_none fun element helement =>
      h.elements element (List.mem_reverse.1 helement)
  unfold Level.last
  dsimp only
  split_ifs
  · exact Nesting.firstBelow_eq_none_of_succ hflat
  · exact Nesting.firstBelow_singleton.trans hflat

theorem NestsWithin.another {begin : Place} (h : level.NestsWithin levels) :
    (level.another ending begin).NestsWithin levels :=
  ⟨List.forall_mem_nil _, List.forall_mem_cons.2 ⟨h.last, h.alternatives⟩⟩

theorem NestsWithin.piece (h : level.NestsWithin levels) :
    Nesting.firstBelow (levels + 2) (level.piece ending).nested = none := by
  have hlast : Nesting.firstBelow (levels + 1) (level.last ending).nested = none := h.last
  have halternatives : ∀ piece ∈ level.alternatives.reverse,
      Nesting.firstBelow (levels + 1) piece.nested = none := fun piece hpiece =>
    h.alternatives piece (List.mem_reverse.1 hpiece)
  unfold Level.piece
  dsimp only
  split
  · exact Nesting.firstBelow_eq_none_of_succ hlast
  · next first rest heq =>
    rw [heq] at halternatives
    obtain ⟨hfirst, hrest⟩ := List.forall_mem_cons.1 halternatives
    rw [Nesting.firstBelow_singleton, Nesting.firstBelow_append_eq_none_iff]
    refine ⟨hfirst, Nesting.firstBelow_flatMap_eq_none ?_⟩
    exact List.forall_mem_append.2 ⟨hrest, List.forall_mem_singleton.2 hlast⟩

end Level

/-! ## Steps -/

/-- Whether a character stands for itself outside of classes. -/
def isLiteral (c : Char) : Bool :=
  !"\\.+*?()|[\x7b^$".toList.contains c

/-- A state of reading in which no flags are set and nothing has been found so far. -/
def plain (rest : List Char) (place : Place) : ReaderState :=
  ⟨rest, place, {}, [], none⟩

variable {fuel : Nat} {level around : Level} {groups : List OpenGroup} {place : Place} {c : Char}
  {word rest : List Char}

theorem some_ne_of_isLiteral {d : Char} (hc : isLiteral c = true) (hd : isLiteral d = false) :
    some c ≠ some d := by
  intro heq
  obtain rfl := Option.some.inj heq
  rw [hc] at hd
  cases hd

theorem bumpIf_eq_false {text : String} (htext : text.toList.head? = some '?')
    (h : rest.head? ≠ some '?') : bumpIf text (plain rest place) = .ok (false, plain rest place) := by
  have hnot : text.toList.isPrefixOf rest = false := by
    obtain ⟨others, hothers⟩ := List.head?_eq_some_iff.1 htext
    rw [hothers]
    obtain _ | ⟨d, rest⟩ := rest
    · rfl
    have hne : '?' ≠ d := fun hd => h (congrArg some hd.symm)
    exact Bool.and_eq_false_iff.2 (.inl (beq_false_of_ne hne))
  change (if text.toList.isPrefixOf rest then _ else pure false : Reader Bool) _ = _
  rw [if_neg (Bool.eq_false_iff.1 hnot)]
  rfl

/-- A parenthesis that no question mark follows opens a group that keeps what it matches: all else
that a parenthesis may begin is told by signs that start with one. -/
theorem opening_eq (h : rest.head? ≠ some '?') :
    Reader.opening (plain ('(' :: rest) place) =
      .ok (.group ⟨place, place.after '('⟩ true {}, plain rest (place.after '(')) := by
  have hloop : ∀ texts : List String, (∀ text ∈ texts, text.toList.head? = some '?') →
      (forIn texts PUnit.unit fun ahead _ => do
        if ← bumpIf ahead then
          fail .lookAround (← since place)
        pure (ForInStep.yield PUnit.unit) : Reader PUnit) (plain rest (place.after '(')) =
        .ok (PUnit.unit, plain rest (place.after '(')) := by
    intro texts htexts
    induction texts with
    | nil => rfl
    | cons text texts ih =>
      obtain ⟨htext, htexts⟩ := List.forall_mem_cons.1 htexts
      rw [List.forIn_cons, bind_assoc, bind_eq (bumpIf_eq_false htext h)]
      exact ih htexts
  -- the steps that do not look for signs are computed
  refine (bind_eq rfl).trans ((bind_eq rfl).trans ((bind_eq rfl).trans ?_))
  refine (bind_eq (hloop _ (by decide))).trans ((bind_eq rfl).trans ((bind_eq rfl).trans ?_))
  refine (bind_eq (bumpIf_eq_false (by decide : "?P<".toList.head? = some '?') h)).trans ?_
  refine (bind_eq (bumpIf_eq_false (by decide : "?<".toList.head? = some '?') h)).trans ?_
  exact (bind_eq (bumpIf_eq_false (by decide : "?".toList.head? = some '?') h)).trans rfl

theorem patternRest_open (h : rest.head? ≠ some '?') :
    patternRest (fuel + 1) level groups (plain ('(' :: rest) place) =
      patternRest fuel (.startingAt (place.after '('))
        (⟨⟨place, place.after '('⟩, true, level, {}⟩ :: groups) (plain rest (place.after '(')) := by
  refine (bind_eq rfl).trans ((bind_eq rfl).trans ((bind_eq rfl).trans ?_))
  exact (bind_eq (opening_eq h)).trans rfl

/-- A bar ends an alternative. -/
theorem patternRest_bar :
    patternRest (fuel + 1) level groups (plain ('|' :: rest) place) =
      patternRest fuel (level.another place (place.after '|')) groups
        (plain rest (place.after '|')) := rfl

/-- The first of the signs around a text. -/
theorem patternRest_start :
    ∃ span, patternRest (fuel + 1) level groups (plain ('^' :: rest) place) =
      patternRest fuel (level.push (.piece ⟨.here .textStart, span, []⟩)) groups
        (plain rest (place.after '^')) := ⟨_, rfl⟩

theorem patternRest_end :
    ∃ span, patternRest (fuel + 1) level groups (plain ('$' :: rest) place) =
      patternRest fuel (level.push (.piece ⟨.here .textEnd, span, []⟩)) groups
        (plain rest (place.after '$')) := ⟨_, rfl⟩

/-- A closing parenthesis makes an element of the level inside. -/
theorem patternRest_close {opening : Span} {keeps : Bool} :
    ∃ span, patternRest (fuel + 1) level (⟨opening, keeps, around, {}⟩ :: groups)
        (plain (')' :: rest) place) =
      patternRest fuel (around.push (.piece ⟨.group keeps (level.piece place).regex, span,
        [.part span (level.piece place).nested]⟩)) groups (plain rest (place.after ')')) := ⟨_, rfl⟩

theorem peek_cons : peek (plain (c :: rest) place) = .ok (some c, plain (c :: rest) place) := rfl

/-! Both matches on the next character leave the signs out one by one. -/

theorem primitivePiece_literal (hc : isLiteral c = true) :
    ∃ span, primitivePiece (plain (c :: rest) place) =
      .ok (⟨.one (.single c), span, []⟩, plain rest (place.after c)) := by
  have hregex : primitiveRegex (plain (c :: rest) place) =
      .ok (.one (.single c), plain rest (place.after c)) := by
    refine (bind_eq rfl).trans ((bind_eq peek_cons).trans ?_)
    generalize hfound : some c = found
    split
    case h_5 =>
      obtain rfl := Option.some.inj hfound
      rfl
    case h_6 => cases hfound
    all_goals exact absurd hfound (some_ne_of_isLiteral hc (by decide))
  exact ⟨_, (bind_eq rfl).trans ((bind_eq hregex).trans rfl)⟩

/-- A character that stands for itself. -/
theorem patternRest_literal (hc : isLiteral c = true) :
    ∃ span, patternRest (fuel + 1) level groups (plain (c :: rest) place) =
      patternRest fuel (level.push (.piece ⟨.one (.single c), span, []⟩)) groups
        (plain rest (place.after c)) := by
  obtain ⟨span, hpiece⟩ := @primitivePiece_literal place c rest hc
  refine ⟨span, (bind_eq rfl).trans ((bind_eq peek_cons).trans ?_)⟩
  generalize hfound : some c = found
  split
  case h_7 =>
    obtain rfl := Option.some.inj hfound
    have hsign : ∀ d, isLiteral d = false → (c == d) = false := fun d hd =>
      beq_false_of_ne fun heq => some_ne_of_isLiteral hc hd (congrArg some heq)
    rw [hsign '?' (by decide), hsign '*' (by decide), hsign '+' (by decide)]
    exact (bind_eq hpiece).trans rfl
  case h_1 => cases hfound
  all_goals exact absurd hfound (some_ne_of_isLiteral hc (by decide))

/-! ## Words -/

/-- **A word** adds its characters to the last alternative. -/
theorem patternRest_word (hword : ∀ c ∈ word, isLiteral c = true)
    (hlevel : level.NestsWithin 0) :
    ∃ elements behind, patternRest (fuel + word.length) level groups (plain (word ++ rest) place) =
        patternRest fuel { level with elements } groups (plain rest behind) ∧
      Level.NestsWithin { level with elements } 0 ∧
      elements.reverse.filterMap Element.regex? =
        level.elements.reverse.filterMap Element.regex? ++ spelled word := by
  induction word generalizing level place with
  | nil => exact ⟨level.elements, place, rfl, hlevel, (List.append_nil _).symm⟩
  | cons c word ih =>
    obtain ⟨hc, hword⟩ := List.forall_mem_cons.1 hword
    obtain ⟨span, hstep⟩ := @patternRest_literal (fuel + word.length) level groups place c
      (word ++ rest) hc
    have hpushed : (level.push (.piece ⟨.one (.single c), span, []⟩)).NestsWithin 0 :=
      hlevel.push rfl
    obtain ⟨elements, behind, hread, hnests, helements⟩ := ih hword hpushed
    refine ⟨elements, behind, hstep.trans hread, hnests, ?_⟩
    rw [helements, Level.push, List.reverse_cons, List.filterMap_append, List.append_assoc]
    rfl

/-- The expression of a word. -/
def wordRegex (word : List Char) : Regex :=
  .sequences (spelled word)

/-- **Words with bars between them** become alternatives. -/
theorem patternRest_words {first : List Char} {others : List (List Char)}
    (hwords : ∀ word ∈ first :: others, ∀ c ∈ word, isLiteral c = true)
    (hlevel : level.NestsWithin 0) (hnew : level.elements = []) :
    ∃ inside behind, patternRest (fuel + (['|'].intercalate (first :: others)).length) level groups
        (plain (['|'].intercalate (first :: others) ++ rest) place) =
          patternRest fuel inside groups (plain rest behind) ∧
      inside.NestsWithin 0 ∧
      inside.branches = level.alternatives.reverse.map (·.regex) ++
        (first :: others).map wordRegex := by
  induction others generalizing first level place with
  | nil =>
    obtain ⟨elements, behind, hread, hnests, helements⟩ := @patternRest_word fuel level groups place
      first rest (hwords first List.mem_cons_self) hlevel
    rw [List.intercalate_singleton]
    refine ⟨_, behind, hread, hnests, ?_⟩
    rw [Level.branches, helements, hnew]
    rfl
  | cons next others ih =>
    obtain ⟨hfirst, hothers⟩ := List.forall_mem_cons.1 hwords
    have hjoined : ['|'].intercalate (first :: next :: others) =
        first ++ '|' :: ['|'].intercalate (next :: others) := by
      rw [List.intercalate_cons_cons, List.append_assoc, List.singleton_append]
    have hfuel : fuel + (['|'].intercalate (first :: next :: others)).length =
        fuel + (['|'].intercalate (next :: others)).length + 1 + first.length := by
      rw [hjoined, List.length_append, List.length_cons]
      omega
    rw [hfuel, hjoined, List.append_assoc, List.cons_append]
    -- behind the bar the level has no elements again, and one more alternative
    obtain ⟨elements, bar, hread, hnests, helements⟩ := @patternRest_word
      (fuel + (['|'].intercalate (next :: others)).length + 1) level groups place first
      ('|' :: (['|'].intercalate (next :: others) ++ rest)) hfirst hlevel
    have hanother := @Level.NestsWithin.another _ 0 bar (bar.after '|') hnests
    obtain ⟨inside, behind, hreadOthers, hinside, hbranches⟩ := @ih _ (bar.after '|') next hothers
      hanother rfl
    refine ⟨inside, behind, hread.trans (patternRest_bar.trans hreadOthers), hinside, ?_⟩
    have hlast : (({ level with elements } : Level).last bar).regex = wordRegex first := by
      change Regex.sequences (elements.reverse.filterMap Element.regex?) = _
      rw [helements, hnew]
      rfl
    rw [hbranches, Level.another, List.reverse_cons, List.map_append, List.map_singleton, hlast,
      List.append_assoc]
    rfl

end Reader

/-! ## Whole patterns -/

/-- The choice between words, between both ends of the text. -/
def anchoredRegex (first : List Char) (others : List (List Char)) : Regex :=
  .sequences [.here .textStart,
    .group true (.choices (Reader.wordRegex first) (others.map Reader.wordRegex)), .here .textEnd]

variable {first : List Char} {others : List (List Char)}

namespace Reader

/-- The pattern is read to its end, as one level that holds the ends of the text and a group. -/
theorem patternRest_anchored (hwords : ∀ word ∈ first :: others, ∀ c ∈ word, isLiteral c = true) :
    ∃ (level : Level) (ending : Place),
      patternRest (3 + (['|'].intercalate (first :: others)).length + 2) (.startingAt .start) []
        (plain ('^' :: '(' :: (['|'].intercalate (first :: others) ++ [')', '$'])) .start) =
          .ok (level.piece ending, plain [] ending) ∧
      level.NestsWithin 3 ∧ level.branches = [anchoredRegex first others] := by
  have hhead : (['|'].intercalate (first :: others) ++ [')', '$']).head? ≠ some '?' := by
    intro hquestion
    have hall : ∀ c ∈ ['|'].intercalate (first :: others) ++ [')', '$'], c ≠ '?' := by
      refine List.forall_mem_append.2 ⟨forall_mem_intercalate (by decide) ?_, by simp⟩
      rintro word hword c hc rfl
      exact absurd (hwords word hword '?' hc) (by decide)
    exact hall '?' (List.mem_of_head? hquestion) rfl
  -- the words are read inside the group, and the level around it has three elements
  obtain ⟨start, hstart⟩ := @patternRest_start
    (3 + (['|'].intercalate (first :: others)).length + 1) (.startingAt .start) [] .start
    ('(' :: (['|'].intercalate (first :: others) ++ [')', '$']))
  obtain ⟨inside, behind, hinside, hnests, hbranches⟩ := @patternRest_words 3
    (.startingAt ((Place.start.after '^').after '(')) _ ((Place.start.after '^').after '(')
    [')', '$'] first others hwords Level.nestsWithin_startingAt rfl
  obtain ⟨group, hclose⟩ := @patternRest_close 2 inside _ [] behind ['$'] _ true
  obtain ⟨ends, hend⟩ := @patternRest_end 1 _ [] (behind.after ')') []
  refine ⟨_, (behind.after ')').after '$', hstart.trans ((patternRest_open hhead).trans
    (hinside.trans (hclose.trans (hend.trans rfl)))), ?_, ?_⟩
  · have hgroup : Nesting.firstBelow 3 [.part group (inside.piece behind).nested] = none :=
      Nesting.firstBelow_singleton.trans hnests.piece
    exact ((Level.nestsWithin_startingAt.push rfl).push hgroup).push rfl
  · have hregex : (inside.piece behind).regex =
        .choices (wordRegex first) (others.map wordRegex) := Level.piece_regex hbranches
    rw [Level.branches, anchoredRegex, ← hregex]
    rfl

/-- What is read as one level is a whole pattern, if the level does not nest too deep. -/
theorem wholePattern_eq {level : Level} {levels : Nat} {chars : List Char} {ending : Place}
    (hread : patternRest (chars.length + 1) (.startingAt .start) [] (plain chars .start) =
      .ok (level.piece ending, plain [] ending))
    (hnests : level.NestsWithin levels) (hlevels : levels + 2 ≤ Nesting.limit) :
    wholePattern (plain chars .start) = .ok (level.piece ending, plain [] ending) := by
  have hdeep : Nesting.firstBelow Nesting.limit (level.piece ending).nested = none :=
    Nesting.firstBelow_eq_none_of_le hlevels hnests.piece
  refine (bind_eq rfl).trans ((bind_eq rfl).trans ?_)
  change (patternRest (chars.length + 1) (.startingAt .start) [] >>= _) (plain chars .start) = _
  rw [bind_eq hread, hdeep]
  rfl

end Reader

/-- **What is read** from words with bars between them, held between both ends of the text. -/
theorem read_anchored {choices : String}
    (hchoices : choices.toList = ['|'].intercalate (first :: others))
    (hwords : ∀ word ∈ first :: others, ∀ c ∈ word, Reader.isLiteral c = true) :
    read (anchored choices) =
      if (anchoredRegex first others).shape.fits then .ok (anchoredRegex first others)
      else .error (.tooLarge sizeLimit) := by
  obtain ⟨level, ending, hread, hnests, hbranches⟩ := Reader.patternRest_anchored hwords
  have hchars : (anchored choices).toList =
      '^' :: '(' :: (['|'].intercalate (first :: others) ++ [')', '$']) := by
    rw [anchored, String.toList_append, String.toList_append, hchoices]
    rfl
  have hfuel : 3 + (['|'].intercalate (first :: others)).length + 2 =
      (anchored choices).toList.length + 1 := by
    rw [hchars]
    simp only [List.length_cons, List.length_append, List.length_nil]
    omega
  rw [hfuel, ← hchars] at hread
  have hrun : Reader.wholePattern.run ⟨(anchored choices).toList, .start, {}, [], none⟩ =
      .ok (level.piece ending, Reader.plain [] ending) :=
    Reader.wholePattern_eq hread hnests (by decide)
  have hregex : (level.piece ending).regex = anchoredRegex first others :=
    Reader.Level.piece_regex hbranches
  unfold read
  rw [hrun, ← hregex]

/-! ## What is matched -/

theorem isPlain_wordRegex {word : List Char} : (Reader.wordRegex word).isPlain = true := by
  rw [Reader.wordRegex, Regex.isPlain_sequences, spelled, List.all_map]
  exact List.all_eq_true.2 fun _ _ => rfl

theorem isAnchored_anchoredRegex : (anchoredRegex first others).isAnchored = true := by
  have hplain : (Regex.choices (Reader.wordRegex first)
      (others.map Reader.wordRegex)).isPlain = true := by
    rw [Regex.isPlain_choices, ← List.map_cons, List.all_map]
    exact List.all_eq_true.2 fun _ _ => isPlain_wordRegex
  exact Bool.and_eq_true_iff.2 ⟨hplain, rfl⟩

theorem mem_language_wordRegex_iff {word cs : List Char} :
    cs ∈ (Reader.wordRegex word).language ↔ cs = word := by
  rw [Reader.wordRegex, Regex.language_sequences, ← mul_one (List.prod _), mem_spelled_mul_iff]
  simp [Language.mem_one]

/-- **The words themselves** and nothing else are in the language. -/
theorem mem_language_anchoredRegex_iff {cs : List Char} :
    cs ∈ (anchoredRegex first others).language ↔ cs ∈ first :: others := by
  rw [anchoredRegex, Regex.language_sequences]
  simp only [List.map_cons, List.map_nil, List.prod_cons, List.prod_nil, Regex.language_here,
    Regex.language_group, one_mul, mul_one]
  rw [Regex.mem_language_choices_iff, ← List.map_cons]
  simp only [List.mem_map, exists_exists_and_eq_and, mem_language_wordRegex_iff, exists_eq_right']

end FieldChecks.Pattern
