import FieldChecks.Proofs.Pattern.Alternatives

/-!
# Choices — one of some words

The words of a choice come joined by bars, and the pattern made of them is
read again: a word may begin as another one does, and what is tried first
must not decide what is accepted. Read as an expression the pattern is
the choice between the words, and it has to match all of a text. So a
choice that is made accepts the words themselves, and a value without a
text is told so; and it is always made unless it is too large
(`oneOf_exact`).
-/

namespace FieldChecks.Pattern

/-- The characters of the words of a choice: ASCII letters and digits, underscores and hyphens. -/
def isChoiceChar (c : Char) : Bool :=
  isAsciiWordChar c || c == '-'

theorem isLiteral_of_isChoiceChar {c : Char} (h : isChoiceChar c = true) :
    Reader.isLiteral c = true := by
  have hsigns : ("\\.+*?()|[\x7b^$".toList.all fun d => !isChoiceChar d) = true := by decide
  rw [Reader.isLiteral, Bool.not_eq_true', Bool.eq_false_iff]
  intro hsign
  have hnot := List.all_eq_true.1 hsigns c (List.contains_iff_mem.1 hsign)
  rw [h] at hnot
  cases hnot

variable {first : String} {others : List String}

/-- The choice between words, as an expression. -/
def choiceRegex (first : String) (others : List String) : Regex :=
  anchoredRegex first.toList (others.map String.toList)

theorem matchesIn_choiceRegex_iff {text : String} :
    (choiceRegex first others).matchesIn text = true ↔ text ∈ first :: others := by
  rw [choiceRegex, Regex.matchesIn_iff_mem_language isAnchored_anchoredRegex,
    mem_language_anchoredRegex_iff, ← List.map_cons,
    List.mem_map_of_injective fun _ _ => String.toList_inj.1]

/-- **What is made** of a choice between words. -/
theorem oneOf_eq (hwords : ∀ word ∈ first :: others, ∀ c ∈ word.toList, isChoiceChar c = true) :
    oneOf ("|".intercalate (first :: others)) =
      if (choiceRegex first others).shape.fits then
        .ok (matchCheck (anchored ("|".intercalate (first :: others))) (choiceRegex first others))
      else .error (.pattern (.tooLarge sizeLimit)) := by
  have hchars : ("|".intercalate (first :: others)).toList =
      ['|'].intercalate (first.toList :: others.map String.toList) := String.toList_intercalate
  have hliteral : ∀ word ∈ first.toList :: others.map String.toList, ∀ c ∈ word,
      Reader.isLiteral c = true := by
    rw [← List.map_cons, List.forall_mem_map]
    exact fun word hword c hc => isLiteral_of_isChoiceChar (hwords word hword c hc)
  rw [oneOf, checker, read_anchored hchars hliteral, choiceRegex]
  split_ifs <;> rfl

/-- **A choice is membership.** If it is made of words, it accepts a value with a text if and only
if the text is one of the words, and tells the kind of a value without one; and if it is not made,
its pattern is too large. -/
theorem oneOf_exact {words : List String} (hne : words ≠ [])
    (hwords : ∀ word ∈ words, ∀ c ∈ word.toList, isChoiceChar c = true) :
    (∀ checker, oneOf ("|".intercalate words) = .ok checker →
      (∀ value text, Value.text value = .ok text → (checker value = .ok () ↔ text ∈ words)) ∧
      ∀ value, (∀ text, Value.text value ≠ .ok text) →
        checker value = .error (.unsupportedKind value.kind)) ∧
    ∀ cause, oneOf ("|".intercalate words) = .error cause →
      cause = .pattern (.tooLarge sizeLimit) := by
  obtain ⟨first, others, rfl⟩ := List.exists_cons_of_ne_nil hne
  rw [oneOf_eq hwords]
  split_ifs with hfits
  · refine ⟨?_, nofun⟩
    intro checker hmade
    obtain rfl := Except.ok.inj hmade
    refine ⟨fun value text htext => ?_, fun value htext => matchCheck_of_no_text htext⟩
    rw [matchCheck_eq_ok_iff htext, matchesIn_choiceRegex_iff]
  · refine ⟨nofun, ?_⟩
    intro cause hrefused
    exact (Except.error.inj hrefused).symm

/-- A word that begins as another one does, the text between the two, and a value without a text. -/
theorem oneOf_exact_of_common_start :
    (["x", "x_1-b"] ≠ [] ∧ ∀ word ∈ ["x", "x_1-b"], ∀ c ∈ word.toList, isChoiceChar c = true) ∧
      ∃ checker, oneOf ("|".intercalate ["x", "x_1-b"]) = .ok checker ∧
        checker (.string "x_1-b") = .ok () ∧ checker (.string "x_1") ≠ .ok () ∧
        (∀ text, Value.text (.sequence 1) ≠ .ok text) ∧
        checker (.sequence 1) = .error (.unsupportedKind .sequence) := by
  have hne : ["x", "x_1-b"] ≠ [] := List.cons_ne_nil _ _
  have hwords : ∀ word ∈ ["x", "x_1-b"], ∀ c ∈ word.toList, isChoiceChar c = true := by
    simp only [List.forall_mem_cons]
    exact ⟨List.all_eq_true.1 (by decide), List.all_eq_true.1 (by decide), nofun⟩
  have hmade := oneOf_eq hwords
  rw [if_pos (by decide +kernel)] at hmade
  obtain ⟨htext, hnoText⟩ := (oneOf_exact hne hwords).1 _ hmade
  refine ⟨⟨hne, hwords⟩, _, hmade, (htext _ _ rfl).2 (by simp), ?_, nofun, hnoText _ nofun⟩
  rw [Ne, htext _ "x_1" rfl]
  decide

end FieldChecks.Pattern
