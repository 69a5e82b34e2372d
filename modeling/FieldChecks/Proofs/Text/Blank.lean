import FieldChecks.Text.Blank
import Mathlib.Data.List.TakeWhile

/-!
# Blanks — what trimming leaves

Trimming takes the blank characters from both ends of a text. What it
leaves is the one part of the text that has only blanks on either side
and does not itself start or end with one (`trim_eq_iff`).
-/

namespace FieldChecks

namespace Chars

/-- A text is `core` between blank characters, and `core` has none at its ends. -/
def Trims (text core : List Char) : Prop :=
  (∃ left right, text = left ++ core ++ right ∧ (∀ c ∈ left, isBlank c) ∧ ∀ c ∈ right, isBlank c) ∧
    (∀ c ∈ core.head?, ¬ isBlank c) ∧ ∀ c ∈ core.getLast?, ¬ isBlank c

variable {text core : List Char}

theorem trimRight_append {right : List Char} (h : ∀ c ∈ right, isBlank c) :
    trimRight (text ++ right) = trimRight text := by
  induction text with
  | nil =>
    induction right with
    | nil => rfl
    | cons c right ih =>
      have hright := ih fun d hd => h d (List.mem_cons_of_mem _ hd)
      simp only [List.nil_append] at hright ⊢
      simp [trimRight, hright, h c List.mem_cons_self]
  | cons c text ih => simp only [List.cons_append, trimRight, ih]

theorem trimRight_eq_self (h : ∀ c ∈ core.getLast?, ¬ isBlank c) : trimRight core = core := by
  induction core with
  | nil => rfl
  | cons c core ih =>
    cases core with
    | nil => simpa [trimRight] using h
    | cons d core =>
      have htail : trimRight (d :: core) = d :: core := ih (by simpa using h)
      rw [trimRight, htail]

/-- What is taken from the end is blank, and the rest does not end with a blank. -/
theorem trimRight_spec (text : List Char) :
    (∃ right, text = trimRight text ++ right ∧ ∀ c ∈ right, isBlank c) ∧
      ∀ c ∈ (trimRight text).getLast?, ¬ isBlank c := by
  induction text with
  | nil => exact ⟨⟨[], by simp [trimRight]⟩, by simp [trimRight]⟩
  | cons c text ih =>
    obtain ⟨⟨right, htext, hright⟩, hlast⟩ := ih
    rw [trimRight]
    cases h : trimRight text with
    | nil =>
      rw [h, List.nil_append] at htext
      subst htext
      by_cases hc : isBlank c
      · refine ⟨⟨c :: text, by simp [hc], fun d hd => ?_⟩, by simp [hc]⟩
        rcases List.mem_cons.1 hd with rfl | hd
        · exact hc
        · exact hright d hd
      · exact ⟨⟨text, by simp [hc], hright⟩, by simp [hc]⟩
    | cons d ds =>
      rw [h] at htext hlast
      refine ⟨⟨right, by rw [htext]; rfl, hright⟩, ?_⟩
      simpa using hlast

/-- What is taken from the start is blank, and the rest does not start with a blank. -/
theorem dropWhile_isBlank_spec (text : List Char) :
    (∃ left, text = left ++ text.dropWhile isBlank ∧ ∀ c ∈ left, isBlank c) ∧
      ∀ c ∈ (text.dropWhile isBlank).head?, ¬ isBlank c := by
  refine ⟨⟨text.takeWhile isBlank, by simp, fun c hc => ?_⟩, fun c hc => ?_⟩
  · exact List.all_eq_true.1 List.all_takeWhile c hc
  · have := List.head?_dropWhile_not isBlank text
    rw [Option.mem_def.1 hc] at this
    simpa using this

/-- **What trimming leaves.** -/
theorem trim_eq_iff : trim text = core ↔ Trims text core := by
  constructor
  · rintro rfl
    obtain ⟨⟨left, htext, hleft⟩, hhead⟩ := dropWhile_isBlank_spec text
    obtain ⟨⟨right, hmiddle, hright⟩, hlast⟩ := trimRight_spec (text.dropWhile isBlank)
    refine ⟨⟨left, right, ?_, hleft, hright⟩, fun c hc => ?_, hlast⟩
    · rw [trim, List.append_assoc, ← hmiddle]
      exact htext
    · -- the end was taken from a text that does not start with a blank
      refine hhead c ?_
      rw [hmiddle, Option.mem_def, List.head?_append]
      exact Option.or_eq_some_iff.2 (.inl hc)
  · rintro ⟨⟨left, right, rfl, hleft, hright⟩, hhead, hlast⟩
    rw [trim, List.append_assoc, List.dropWhile_append_of_pos hleft]
    cases core with
    | nil => rw [List.nil_append, List.dropWhile_eq_nil_iff.2 hright]; rfl
    | cons c core =>
      have hc : isBlank c = false := by simpa using hhead c rfl
      rw [List.cons_append, List.dropWhile_cons_of_neg (by simp [hc]), ← List.cons_append,
        trimRight_append hright, trimRight_eq_self hlast]

end Chars

namespace Text

/-- A text is `core` between blank characters, and `core` has none at its ends. -/
def Trims (text core : String) : Prop :=
  Chars.Trims text.toList core.toList

theorem trim_eq_iff {text core : String} : trim text = core ↔ Trims text core := by
  rw [Trims, ← Chars.trim_eq_iff, trim, ← String.toList_inj, String.toList_ofList]

/-- Nothing is trimmed where there are no blanks. -/
theorem trim_eq_self {text : String} (h : ∀ c ∈ text.toList, ¬ FieldChecks.isBlank c) :
    trim text = text :=
  trim_eq_iff.2 ⟨⟨[], [], by simp, by simp, by simp⟩,
    fun c hc => h c (List.mem_of_mem_head? hc), fun c hc => h c (List.mem_of_mem_getLast? hc)⟩

end Text

end FieldChecks
