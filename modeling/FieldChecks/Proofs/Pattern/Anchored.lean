import FieldChecks.Proofs.Pattern.Matching

/-!
# Anchored expressions — all of a text is matched

An expression that starts with the start of the text and ends with its end
matches a text only as a whole (`matchesIn_iff_matches`), and then every
character of the text is one of a set that the expression names
(`Regex.Matches.exists_set`).
-/

namespace FieldChecks.Pattern

namespace Regex

/-- The expression asks for the start of the text in front of anything else. -/
def startsText : Regex → Bool
  | .sequence (.here .textStart) _ => true
  | _ => false

/-- The expression asks for the end of the text behind everything else. -/
def endsText : Regex → Bool
  | .here .textEnd => true
  | .sequence _ second => second.endsText
  | _ => false

/-- The sets of characters that an expression names. -/
def sets : Regex → List RangeTable
  | .empty | .here _ => []
  | .one set => [set]
  | .sequence first second | .choice first second => first.sets ++ second.sets
  | .repetition _ _ inner | .group _ inner => inner.sets

variable {regex : Regex} {before after : Option Char} {cs : List Char}

/-! ## Both ends -/

theorem Matches.before_eq_none (hstart : regex.startsText = true)
    (h : regex.Matches before cs after) : before = none := by
  unfold startsText at hstart
  split at hstart
  · obtain ⟨front, back, -, ⟨-, hbefore⟩, -⟩ := h
    exact Option.isNone_iff_eq_none.1 hbefore
  · cases hstart

theorem Matches.after_eq_none (hend : regex.endsText = true)
    (h : regex.Matches before cs after) : after = none := by
  induction regex generalizing before cs with
  | here condition =>
    cases condition with
    | textEnd => exact Option.isNone_iff_eq_none.1 h.2
    | _ => cases hend
  | sequence first second _ ih =>
    obtain ⟨front, back, -, -, hback⟩ := h
    exact ih hend hback
  | _ => cases hend

/-- **An expression that asks for both ends** is found in a text if and only if it matches all of
it. -/
theorem matchesIn_iff_matches (hstart : regex.startsText = true) (hend : regex.endsText = true)
    {text : String} : regex.matchesIn text = true ↔ regex.Matches none text.toList none := by
  rw [matchesIn_iff]
  constructor
  · rintro ⟨before, cs, after, htext, h⟩
    obtain rfl : before = [] := List.getLast?_eq_none_iff.1 (h.before_eq_none hstart)
    obtain rfl : after = [] := List.head?_eq_none_iff.1 (h.after_eq_none hend)
    simpa [htext] using h
  · intro h
    exact ⟨[], text.toList, [], by simp, h⟩

/-! ## Characters -/

theorem forall_of_times {fit : Fit} {p : Char → Prop}
    (hfit : ∀ {before cs after}, fit before cs after → ∀ c ∈ cs, p c) {count : Nat}
    (h : fit.times count before cs after) : ∀ c ∈ cs, p c := by
  induction count generalizing before cs with
  | zero => simp [show cs = [] from h]
  | succ count ih =>
    obtain ⟨front, back, rfl, hfront, hback⟩ := h
    exact List.forall_mem_append.2 ⟨hfit hfront, ih hback⟩

/-- **Every character that is matched** belongs to a set that the expression names. -/
theorem Matches.exists_set (h : regex.Matches before cs after) :
    ∀ c ∈ cs, ∃ set ∈ regex.sets, set.contains c = true := by
  induction regex generalizing before cs after with
  | empty => simp [show cs = [] from h]
  | one set =>
    obtain ⟨c, rfl, hc⟩ := h
    simpa [sets] using hc
  | here condition => simp [h.1]
  | sequence first second ihfirst ihsecond =>
    obtain ⟨front, back, rfl, hfront, hback⟩ := h
    intro c hc
    rcases List.mem_append.1 hc with hc | hc
    · obtain ⟨set, hset, hcontains⟩ := ihfirst hfront c hc
      exact ⟨set, List.mem_append_left _ hset, hcontains⟩
    · obtain ⟨set, hset, hcontains⟩ := ihsecond hback c hc
      exact ⟨set, List.mem_append_right _ hset, hcontains⟩
  | choice first second ihfirst ihsecond =>
    intro c hc
    rcases h with h | h
    · obtain ⟨set, hset, hcontains⟩ := ihfirst h c hc
      exact ⟨set, List.mem_append_left _ hset, hcontains⟩
    · obtain ⟨set, hset, hcontains⟩ := ihsecond h c hc
      exact ⟨set, List.mem_append_right _ hset, hcontains⟩
  | repetition least most inner ih =>
    obtain ⟨count, -, htimes⟩ := h
    exact forall_of_times ih htimes
  | group _ inner ih => exact ih h

end Regex

end FieldChecks.Pattern
