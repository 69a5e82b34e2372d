import FieldChecks.Proofs.Pattern.Anchored
import Mathlib.Computability.Language

/-!
# Languages of expressions — what is matched, without what is around it

Only conditions look at the characters around a match. What an expression
without conditions matches is a language, and languages can be calculated
with: a sequence is a product, a choice a sum, and a repetition a power
or several of them (`Regex.language`). An expression whose only conditions
are the start of the text in front of everything and its end behind
everything is found in the texts of its language
(`matchesIn_iff_mem_language`).

The second half tells the languages that such expressions are made of by
what their words look like: characters of a kind (`mem_pow_charOf_iff`), and
words between separators (`mem_mul_kstar_iff`), also where every separator
is spelled behind its word (`mem_oneOrMore_mul_iff`).
-/

open scoped Computability

namespace FieldChecks

theorem RangeTable.contains_between (c : Char) : (between c c).contains = (· == c) := by
  funext d
  rw [Bool.eq_iff_iff, beq_iff_eq, ← Char.toNat_inj]
  simp only [contains, between, holds]
  split_ifs with hlt
  · simp [Nat.ne_of_lt hlt]
  · simp
    omega

namespace Pattern

/-- The words of one character of a kind. -/
def charOf (p : Char → Bool) : Language Char :=
  {cs | ∃ c, cs = [c] ∧ p c = true}

namespace Regex

/-- The language of an expression. Conditions are taken for the empty text. -/
def language : Regex → Language Char
  | .empty | .here _ => 1
  | .one set => charOf set.contains
  | .sequence first second => first.language * second.language
  | .choice first second => first.language + second.language
  | .repetition least most inner =>
    {cs | ∃ count, Allows least most count ∧ cs ∈ inner.language ^ count}
  | .group _ inner => inner.language

/-- The expression has no conditions. -/
def isPlain : Regex → Bool
  | .empty | .one _ => true
  | .here _ => false
  | .sequence first second | .choice first second => first.isPlain && second.isPlain
  | .repetition _ _ inner | .group _ inner => inner.isPlain

/-- The only condition of the expression is the end of the text, behind everything else. -/
def endsPlainly : Regex → Bool
  | .here .textEnd => true
  | .sequence first second => first.isPlain && second.endsPlainly
  | _ => false

/-- The only conditions of the expression are the start and the end of the text, around everything
else. -/
def isAnchored : Regex → Bool
  | .sequence (.here .textStart) rest => rest.endsPlainly
  | _ => false

variable {regex : Regex} {before after : Option Char} {cs : List Char} {count : Nat}

theorem times_iff_mem_pow {fit : Fit} {words : Language Char}
    (h : ∀ {before cs after}, fit before cs after ↔ cs ∈ words) :
    fit.times count before cs after ↔ cs ∈ words ^ count := by
  induction count generalizing before cs with
  | zero => exact Iff.rfl
  | succ count ih =>
    rw [pow_succ', Language.mem_mul]
    constructor
    · rintro ⟨front, back, rfl, hfront, hback⟩
      exact ⟨front, h.1 hfront, back, ih.1 hback, rfl⟩
    · rintro ⟨front, hfront, back, hback, rfl⟩
      exact ⟨front, back, rfl, h.2 hfront, ih.2 hback⟩

/-- **Without conditions** nothing depends on the characters around. -/
theorem matches_iff_mem_language (hplain : regex.isPlain = true) :
    regex.Matches before cs after ↔ cs ∈ regex.language := by
  induction regex generalizing before cs after with
  | empty => exact Iff.rfl
  | one set => exact Iff.rfl
  | here condition => cases hplain
  | sequence first second ihfirst ihsecond =>
    obtain ⟨hfirst, hsecond⟩ := Bool.and_eq_true_iff.1 hplain
    rw [language, Language.mem_mul]
    constructor
    · rintro ⟨front, back, rfl, hfront, hback⟩
      exact ⟨front, (ihfirst hfirst).1 hfront, back, (ihsecond hsecond).1 hback, rfl⟩
    · rintro ⟨front, hfront, back, hback, rfl⟩
      exact ⟨front, back, rfl, (ihfirst hfirst).2 hfront, (ihsecond hsecond).2 hback⟩
  | choice first second ihfirst ihsecond =>
    obtain ⟨hfirst, hsecond⟩ := Bool.and_eq_true_iff.1 hplain
    exact or_congr (ihfirst hfirst) (ihsecond hsecond)
  | repetition least most inner ih =>
    exact exists_congr fun count => and_congr_right fun _ => times_iff_mem_pow (ih hplain)
  | group _ inner ih => exact ih hplain

theorem matches_iff_mem_language_of_endsPlainly (hends : regex.endsPlainly = true) :
    regex.Matches before cs none ↔ cs ∈ regex.language := by
  induction regex generalizing before cs with
  | here condition =>
    cases condition with
    | textEnd => exact ⟨And.left, fun h => ⟨h, rfl⟩⟩
    | _ => cases hends
  | sequence first second _ ih =>
    obtain ⟨hfirst, hsecond⟩ := Bool.and_eq_true_iff.1 hends
    rw [language, Language.mem_mul]
    constructor
    · rintro ⟨front, back, rfl, hfront, hback⟩
      exact ⟨front, (matches_iff_mem_language hfirst).1 hfront, back, (ih hsecond).1 hback, rfl⟩
    · rintro ⟨front, hfront, back, hback, rfl⟩
      exact ⟨front, back, rfl, (matches_iff_mem_language hfirst).2 hfront, (ih hsecond).2 hback⟩
  | _ => cases hends

theorem endsText_of_endsPlainly (hends : regex.endsPlainly = true) : regex.endsText = true := by
  induction regex with
  | here condition =>
    cases condition with
    | textEnd => rfl
    | _ => cases hends
  | sequence first second _ ih => exact ih (Bool.and_eq_true_iff.1 hends).2
  | _ => cases hends

theorem matchesIn_iff_matches_of_isAnchored (hanchored : regex.isAnchored = true) {text : String} :
    regex.matchesIn text = true ↔ regex.Matches none text.toList none := by
  unfold isAnchored at hanchored
  split at hanchored
  next rest =>
    have hends : rest.endsText = true := endsText_of_endsPlainly hanchored
    exact @matchesIn_iff_matches (sequence (here .textStart) rest) rfl hends text
  next => cases hanchored

/-- **Conditions at both ends only**: the texts where a match is found are the language. -/
theorem matchesIn_iff_mem_language (hanchored : regex.isAnchored = true) {text : String} :
    regex.matchesIn text = true ↔ text.toList ∈ regex.language := by
  rw [matchesIn_iff_matches_of_isAnchored hanchored]
  unfold isAnchored at hanchored
  split at hanchored
  next rest =>
    rw [language, language, one_mul,
      ← @matches_iff_mem_language_of_endsPlainly rest none _ hanchored]
    constructor
    · rintro ⟨front, back, htext, ⟨rfl, -⟩, hback⟩
      rw [htext]
      exact hback
    · exact fun h => ⟨[], text.toList, rfl, ⟨rfl, rfl⟩, h⟩
  next => cases hanchored

/-! ## Expressions and their languages -/

@[simp] theorem language_here {condition : Condition} : (here condition).language = 1 := rfl

@[simp] theorem language_one {set : RangeTable} : (one set).language = charOf set.contains := rfl

@[simp] theorem language_sequence {first second : Regex} :
    (sequence first second).language = first.language * second.language := rfl

@[simp] theorem language_choice {first second : Regex} :
    (choice first second).language = first.language + second.language := rfl

@[simp] theorem language_group {keeps : Bool} : (group keeps regex).language = regex.language := rfl

theorem language_sequences {parts : List Regex} :
    (sequences parts).language = (parts.map language).prod := by
  induction parts with
  | nil => rfl
  | cons part parts ih =>
    cases parts with
    | nil => simp [sequences]
    | cons next parts =>
      rw [List.map_cons, List.prod_cons, ← ih]
      rfl

theorem isPlain_sequences {parts : List Regex} :
    (sequences parts).isPlain = parts.all isPlain := by
  induction parts with
  | nil => rfl
  | cons part parts ih =>
    cases parts with
    | nil => simp [sequences]
    | cons next parts =>
      rw [List.all_cons, ← ih]
      rfl

/-- The words of a choice are those of its alternatives. -/
theorem mem_language_choices_iff {first : Regex} {others : List Regex} :
    cs ∈ (choices first others).language ↔ ∃ part ∈ first :: others, cs ∈ part.language := by
  induction others generalizing first with
  | nil => simp [choices]
  | cons next others ih =>
    rw [choices, language_choice, Language.mem_add, ih]
    simp

theorem isPlain_choices {first : Regex} {others : List Regex} :
    (choices first others).isPlain = (first :: others).all isPlain := by
  induction others generalizing first with
  | nil => simp [choices]
  | cons next others ih => rw [choices, isPlain, ih, List.all_cons, List.all_cons, List.all_cons]

theorem language_star : (repetition 0 none regex).language = regex.language∗ := by
  ext cs
  rw [Language.kstar_eq_iSup_pow, Language.mem_iSup]
  exact exists_congr fun count => and_iff_right ⟨Nat.zero_le count, nofun⟩

theorem language_optional : (repetition 0 (some 1) regex).language = 1 + regex.language := by
  ext cs
  rw [Language.mem_add]
  constructor
  · rintro ⟨count, ⟨-, hmost⟩, h⟩
    obtain rfl | rfl : count = 0 ∨ count = 1 := by
      have hle := hmost 1 rfl
      omega
    · exact .inl h
    · rw [pow_one] at h
      exact .inr h
  · rintro (h | h)
    · exact ⟨0, by simp [Allows], h⟩
    · exact ⟨1, by simp [Allows], by rwa [pow_one]⟩

theorem language_exactly :
    (repetition count (some count) regex).language = regex.language ^ count := by
  ext cs
  constructor
  · rintro ⟨times, ⟨hleast, hmost⟩, h⟩
    obtain rfl : times = count := Nat.le_antisymm (by simpa using hmost count rfl) hleast
    exact h
  · exact fun h => ⟨count, by simp [Allows], h⟩

/-- One part or more. -/
theorem mem_language_oneOrMore_iff : cs ∈ (repetition 1 none regex).language ↔
    ∃ parts ≠ [], (∀ part ∈ parts, part ∈ regex.language) ∧ cs = parts.flatten := by
  constructor
  · rintro ⟨count, ⟨hleast, -⟩, h⟩
    obtain ⟨parts, rfl, rfl, hall⟩ := Language.mem_pow.1 h
    exact ⟨parts, List.ne_nil_of_length_pos hleast, hall, rfl⟩
  · rintro ⟨parts, hne, hall, rfl⟩
    exact ⟨parts.length, ⟨List.length_pos_of_ne_nil hne, nofun⟩,
      Language.mem_pow.2 ⟨parts, rfl, rfl, hall⟩⟩

end Regex

/-! ## Words of characters -/

variable {p : Char → Bool} {cs : List Char} {count : Nat}

theorem mem_pow_charOf_iff :
    cs ∈ charOf p ^ count ↔ cs.length = count ∧ ∀ c ∈ cs, p c = true := by
  induction count generalizing cs with
  | zero =>
    rw [pow_zero, Language.mem_one, List.length_eq_zero_iff, iff_self_and]
    rintro rfl
    exact List.forall_mem_nil _
  | succ count ih =>
    rw [pow_succ', Language.mem_mul]
    constructor
    · rintro ⟨_, ⟨c, rfl, hc⟩, back, hback, rfl⟩
      obtain ⟨hlength, hall⟩ := ih.1 hback
      exact ⟨by simp [hlength], List.forall_mem_cons.2 ⟨hc, hall⟩⟩
    · rintro ⟨hlength, hall⟩
      obtain _ | ⟨c, cs⟩ := cs
      · cases hlength
      obtain ⟨hc, hall⟩ := List.forall_mem_cons.1 hall
      exact ⟨[c], ⟨c, rfl, hc⟩, cs, ih.2 ⟨Nat.succ.inj hlength, hall⟩, rfl⟩

/-- Characters in groups, any number of them. -/
theorem mem_kstar_pow_charOf_iff :
    cs ∈ (charOf p ^ count)∗ ↔ count ∣ cs.length ∧ ∀ c ∈ cs, p c = true := by
  rw [Language.kstar_eq_iSup_pow, Language.mem_iSup]
  simp only [← pow_mul, mem_pow_charOf_iff]
  exact exists_and_right

/-- **Characters of a set repeated** as often as a repetition allows. -/
theorem mem_language_repetition_one_iff {least : Nat} {most : Option Nat} {set : RangeTable} :
    cs ∈ (Regex.repetition least most (.one set)).language ↔
      Allows least most cs.length ∧ ∀ c ∈ cs, set.contains c = true := by
  constructor
  · rintro ⟨count, hallows, h⟩
    obtain ⟨rfl, hall⟩ := mem_pow_charOf_iff.1 h
    exact ⟨hallows, hall⟩
  · rintro ⟨hallows, hall⟩
    exact ⟨cs.length, hallows, mem_pow_charOf_iff.2 ⟨rfl, hall⟩⟩

/-! ## Words with a character at one end -/

theorem mem_charOf_iff {c : Char} : cs ∈ charOf (· == c) ↔ cs = [c] := by
  constructor
  · rintro ⟨d, rfl, hd⟩
    rw [eq_of_beq hd]
  · rintro rfl
    exact ⟨c, rfl, beq_self_eq_true c⟩

/-- Characters of a kind, and one character repeated behind them. -/
theorem mem_pow_mul_pow_iff {c : Char} {times : Nat} :
    cs ∈ charOf p ^ count * charOf (· == c) ^ times ↔
      ∃ word, word.length = count ∧ (∀ d ∈ word, p d = true) ∧
        cs = word ++ List.replicate times c := by
  simp only [Language.mem_mul, mem_pow_charOf_iff, beq_iff_eq, ← List.eq_replicate_iff]
  constructor
  · rintro ⟨word, ⟨hlength, hall⟩, _, rfl, rfl⟩
    exact ⟨word, hlength, hall, rfl⟩
  · rintro ⟨word, hlength, hall, rfl⟩
    exact ⟨word, ⟨hlength, hall⟩, _, rfl, rfl⟩

/-- A word with a character in front of it. -/
theorem mem_charOf_mul_iff {words : Language Char} {c : Char} :
    cs ∈ charOf (· == c) * words ↔ ∃ word ∈ words, cs = c :: word := by
  rw [Language.mem_mul]
  constructor
  · rintro ⟨front, hfront, word, hword, rfl⟩
    obtain rfl := mem_charOf_iff.1 hfront
    exact ⟨word, hword, rfl⟩
  · rintro ⟨word, hword, rfl⟩
    exact ⟨[c], mem_charOf_iff.2 rfl, word, hword, rfl⟩

/-- A word with a character behind it. -/
theorem mem_mul_charOf_iff {words : Language Char} {c : Char} :
    cs ∈ words * charOf (· == c) ↔ ∃ word ∈ words, cs = word ++ [c] := by
  rw [Language.mem_mul]
  constructor
  · rintro ⟨word, hword, back, hback, rfl⟩
    obtain rfl := mem_charOf_iff.1 hback
    exact ⟨word, hword, rfl⟩
  · rintro ⟨word, hword, rfl⟩
    exact ⟨word, hword, [c], mem_charOf_iff.2 rfl, rfl⟩

/-- The expressions of the characters of a word. -/
def spelled (word : List Char) : List Regex :=
  word.map fun c => .one (.between c c)

/-- A word with others behind it. -/
theorem mem_spelled_mul_iff {word : List Char} {words : Language Char} :
    cs ∈ ((spelled word).map Regex.language).prod * words ↔ ∃ rest ∈ words, cs = word ++ rest := by
  induction word generalizing cs with
  | nil => simp [spelled]
  | cons c word ih =>
    have hcons : ((spelled (c :: word)).map Regex.language).prod =
        charOf (· == c) * ((spelled word).map Regex.language).prod := by
      rw [spelled, List.map_cons, List.map_cons, List.prod_cons, Regex.language_one,
        RangeTable.contains_between, spelled]
    rw [hcons, mul_assoc, mem_charOf_mul_iff]
    simp only [ih]
    constructor
    · rintro ⟨_, ⟨rest, hrest, rfl⟩, rfl⟩
      exact ⟨rest, hrest, rfl⟩
    · rintro ⟨rest, hrest, rfl⟩
      exact ⟨_, ⟨rest, hrest, rfl⟩, rfl⟩

/-! ## Words between separators -/

theorem forall_mem_intercalate {p : Char → Prop} {separator : Char} {parts : List (List Char)}
    (hseparator : p separator) (h : ∀ part ∈ parts, ∀ c ∈ part, p c) :
    ∀ c ∈ [separator].intercalate parts, p c := by
  induction parts with
  | nil => simp
  | cons part parts ih =>
    obtain ⟨hpart, h⟩ := List.forall_mem_cons.1 h
    cases parts with
    | nil => simpa using hpart
    | cons next parts =>
      rw [List.intercalate_cons_cons, List.forall_mem_append, List.forall_mem_append]
      exact ⟨⟨hpart, List.forall_mem_singleton.2 hseparator⟩, ih h⟩

theorem append_flatten_map_cons {separator : Char} {first : List Char} {others : List (List Char)} :
    first ++ (others.map (separator :: ·)).flatten = [separator].intercalate (first :: others) := by
  induction others generalizing first with
  | nil => simp
  | cons next others ih =>
    rw [List.intercalate_cons_cons, ← ih]
    simp

/-- **A word, and any number of others** behind separators: that is words joined by separators. -/
theorem mem_mul_kstar_iff {words : Language Char} {separator : Char} :
    cs ∈ words * (charOf (· == separator) * words)∗ ↔
      ∃ parts ≠ [], (∀ part ∈ parts, part ∈ words) ∧ cs = [separator].intercalate parts := by
  rw [Language.mem_mul]
  constructor
  · rintro ⟨first, hfirst, _, ⟨behind, rfl, hall⟩, rfl⟩
    have hmap : (behind.map List.tail).map (separator :: ·) = behind := by
      rw [List.map_map, List.map_congr_left (g := id), List.map_id]
      intro part hpart
      obtain ⟨word, -, rfl⟩ := mem_charOf_mul_iff.1 (hall part hpart)
      rfl
    refine ⟨first :: behind.map List.tail, List.cons_ne_nil _ _,
      List.forall_mem_cons.2 ⟨hfirst, ?_⟩, by rw [← append_flatten_map_cons, hmap]⟩
    intro tail htail
    obtain ⟨part, hpart, rfl⟩ := List.mem_map.1 htail
    obtain ⟨word, hword, rfl⟩ := mem_charOf_mul_iff.1 (hall part hpart)
    exact hword
  · rintro ⟨parts, hne, hall, rfl⟩
    obtain _ | ⟨first, others⟩ := parts
    · cases hne rfl
    obtain ⟨hfirst, hothers⟩ := List.forall_mem_cons.1 hall
    refine ⟨first, hfirst, _, Language.join_mem_kstar ?_, append_flatten_map_cons⟩
    intro part hpart
    obtain ⟨word, hword, rfl⟩ := List.mem_map.1 hpart
    exact mem_charOf_mul_iff.2 ⟨word, hothers word hword, rfl⟩

theorem flatten_map_concat_append {separator : Char} {words : List (List Char)} {last : List Char} :
    (words.map (· ++ [separator])).flatten ++ last = [separator].intercalate (words ++ [last]) := by
  induction words with
  | nil => simp
  | cons word words ih =>
    rw [List.cons_append, List.intercalate_cons_of_ne_nil (by simp), ← ih]
    simp

/-- **Words with separators behind them, one or more, and a last word**: that is two words or more,
joined by separators. -/
theorem mem_oneOrMore_mul_iff {words lasts : Language Char} {separator : Char} {regex : Regex}
    (hregex : regex.language = words * charOf (· == separator)) :
    cs ∈ (Regex.repetition 1 none regex).language * lasts ↔
      ∃ parts ≠ [], (∀ part ∈ parts, part ∈ words) ∧
        ∃ last ∈ lasts, cs = [separator].intercalate (parts ++ [last]) := by
  rw [Language.mem_mul]
  constructor
  · rintro ⟨_, hfront, last, hlast, rfl⟩
    obtain ⟨ended, hne, hall, rfl⟩ := Regex.mem_language_oneOrMore_iff.1 hfront
    rw [hregex] at hall
    have hmap : (ended.map List.dropLast).map (· ++ [separator]) = ended := by
      rw [List.map_map, List.map_congr_left (g := id), List.map_id]
      intro part hpart
      obtain ⟨word, -, rfl⟩ := mem_mul_charOf_iff.1 (hall part hpart)
      simp
    refine ⟨ended.map List.dropLast, by simpa using hne, ?_, last, hlast,
      by rw [← flatten_map_concat_append, hmap]⟩
    intro front hfront
    obtain ⟨part, hpart, rfl⟩ := List.mem_map.1 hfront
    obtain ⟨word, hword, rfl⟩ := mem_mul_charOf_iff.1 (hall part hpart)
    simpa using hword
  · rintro ⟨parts, hne, hall, last, hlast, rfl⟩
    refine ⟨_, Regex.mem_language_oneOrMore_iff.2
      ⟨parts.map (· ++ [separator]), by simpa using hne, ?_, rfl⟩, last, hlast,
      flatten_map_concat_append⟩
    rw [hregex]
    intro part hpart
    obtain ⟨word, hword, rfl⟩ := List.mem_map.1 hpart
    exact mem_mul_charOf_iff.2 ⟨word, hall word hword, rfl⟩

end Pattern

end FieldChecks
