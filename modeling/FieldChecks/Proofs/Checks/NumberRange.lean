import FieldChecks.Proofs.Checks.AsciiText
import FieldChecks.Proofs.Pattern.Numeral

/-!
# Numbers in a range — social security numbers and colours

The patterns of social security numbers and of colours spell ranges of
numbers digit by digit. A social security number has its zeros in front,
so its groups are numerals of a width (`language_area`). A colour component
is a number without needless zeros: one digit, or two, or three, each time
the numbers that have as many (`mem_component_mul_iff`). What is spelled
around them is text. So the ASCII texts that the three formats accept are
told by numbers (`ranges_exact`).
-/

open scoped Computability

namespace FieldChecks.Format

open Pattern (Regex charOf numerals digitRange spelled)

/-! ## What is accepted -/

/-- **A social security number**: three groups of digits, none of them zero, and the first one below
nine hundred and not six hundred sixty-six. -/
def IsSocialSecurityNumber (cs : List Char) : Prop :=
  ∃ area group serial, cs = area ++ '-' :: (group ++ '-' :: serial) ∧
    area ∈ numerals 3 {n | 1 ≤ n ∧ n ≤ 899 ∧ n ≠ 666} ∧
    group ∈ numerals 2 {n | n ≠ 0} ∧ serial ∈ numerals 4 {n | n ≠ 0}

/-- **An opacity**: zero, one, or a fraction behind a point, which may have a zero in front. -/
def IsOpacity (cs : List Char) : Prop :=
  cs = ['0'] ∨ cs = ['1'] ∨
    ∃ fraction, Integer.IsDigits fraction ∧ (cs = '.' :: fraction ∨ cs = '0' :: '.' :: fraction)

/-! ## Social security numbers -/

/-- A digit from one to another. -/
def digit (first last : Nat) : Regex :=
  .one (digitRange first last)

/-- The first group, which leaves out zero, six hundred sixty-six, and nine hundred and above. -/
def area : Regex :=
  .choices (.sequence (digit 0 0)
      (.group true (.choice (.sequence (digit 0 0) (digit 1 9))
        (.sequence (digit 1 9) (digit 0 9)))))
    [.sequences [digit 1 5, digit 0 9, digit 0 9],
      .sequence (digit 6 6) (.group true (.choices (.sequence (digit 0 5) (digit 0 9))
        [.sequence (digit 6 6) (digit 0 5), .sequence (digit 6 6) (digit 7 9),
          .sequence (digit 7 9) (digit 0 9)])),
      .sequences [digit 7 8, digit 0 9, digit 0 9]]

/-- The second group. -/
def group : Regex :=
  .choice (.sequence (digit 0 0) (digit 1 9)) (.sequence (digit 1 9) (digit 0 9))

/-- The last group. -/
def serial : Regex :=
  .choices (.sequences [digit 0 0, digit 0 0, digit 0 0, digit 1 9])
    [.sequences [digit 0 0, digit 0 0, digit 1 9, digit 0 9],
      .sequences [digit 0 0, digit 1 9, digit 0 9, digit 0 9],
      .sequences [digit 1 9, digit 0 9, digit 0 9, digit 0 9]]

/-- What is read as the pattern of social security numbers, with ASCII digits. -/
def ssnRegex : Regex :=
  .sequences ([.here .textStart, .group true area] ++ spelled ['-'] ++ [.group true group] ++
    spelled ['-'] ++ [.group true serial, .here .textEnd])

theorem read_ssnPattern : (Pattern.read ssnPattern).toOption.map Regex.ascii = some ssnRegex := by
  decide +kernel

theorem language_digit {first last : Nat} (hlast : last ≤ 9) :
    (digit first last).language = numerals 1 (Set.Icc first last) :=
  Pattern.language_digitRange hlast

/-- Digit by digit, the branches are ranges of numbers; together they are the range. -/
theorem language_area : area.language = numerals 3 {n | 1 ≤ n ∧ n ≤ 899 ∧ n ≠ 666} := by
  simp only [area, Regex.choices, Regex.sequences, Regex.language_choice, Regex.language_sequence,
    Regex.language_group, language_digit, Nat.le_refl, Nat.reduceLeDiff, Pattern.numerals_mul,
    Pattern.numerals_add]
  refine Pattern.numerals_congr fun n hn => ?_
  simp only [Set.mem_union, Set.mem_ofPred_eq, Set.mem_Icc]
  omega

theorem language_group : group.language = numerals 2 {n | n ≠ 0} := by
  simp only [group, Regex.language_choice, Regex.language_sequence, language_digit, Nat.le_refl,
    Nat.reduceLeDiff, Pattern.numerals_mul, Pattern.numerals_add]
  refine Pattern.numerals_congr fun n hn => ?_
  simp only [Set.mem_union, Set.mem_ofPred_eq, Set.mem_Icc]
  omega

theorem language_serial : serial.language = numerals 4 {n | n ≠ 0} := by
  simp only [serial, Regex.choices, Regex.sequences, Regex.language_choice,
    Regex.language_sequence, language_digit, Nat.le_refl, Nat.reduceLeDiff, Pattern.numerals_mul,
    Pattern.numerals_add]
  refine Pattern.numerals_congr fun n hn => ?_
  simp only [Set.mem_union, Set.mem_ofPred_eq, Set.mem_Icc]
  omega

theorem mem_language_ssnRegex_iff {cs : List Char} :
    cs ∈ ssnRegex.language ↔ IsSocialSecurityNumber cs := by
  rw [ssnRegex, Regex.language_sequences]
  simp only [List.map_append, List.map_cons, List.map_nil, List.prod_append, List.prod_cons,
    List.prod_nil, Regex.language_here, Regex.language_group, language_area, language_group,
    language_serial, one_mul, mul_one, mul_assoc]
  rw [Language.mem_mul]
  constructor
  · rintro ⟨area, harea, _, hbehind, rfl⟩
    obtain ⟨_, hgroups, rfl⟩ := Pattern.mem_spelled_mul_iff.1 hbehind
    obtain ⟨group, hgroup, _, hlast, rfl⟩ := Language.mem_mul.1 hgroups
    obtain ⟨serial, hserial, rfl⟩ := Pattern.mem_spelled_mul_iff.1 hlast
    exact ⟨area, group, serial, rfl, harea, hgroup, hserial⟩
  · rintro ⟨area, group, serial, rfl, harea, hgroup, hserial⟩
    exact ⟨area, harea, _, Pattern.mem_spelled_mul_iff.2 ⟨_, Language.append_mem_mul hgroup
      (Pattern.mem_spelled_mul_iff.2 ⟨serial, hserial, rfl⟩), rfl⟩, rfl⟩

/-! ## Colours -/

/-- A component: below two hundred fifty-six. -/
def component : Regex :=
  .group true (.group false (.choices
    (.sequence (digit 2 2) (.group false (.choice (.sequence (digit 5 5) (digit 0 5))
      (.sequence (digit 0 4) (digit 0 9)))))
    [.sequences [digit 1 1, digit 0 9, digit 0 9],
      .sequence (.repetition 0 (some 1) (digit 1 9)) (digit 0 9)]))

/-- What is read as the pattern of an opacity. -/
def opacity : Regex :=
  .group true (.choices (.one (.between '0' '0')) [.one (.between '1' '1'),
    .sequences [.repetition 0 (some 1) (.one (.between '0' '0')), .one (.between '.' '.'),
      .repetition 1 none (digit 0 9)]])

/-- Three components between commas, behind a name and a bracket, and what follows. -/
def colorRegex (name : String) (rest : List Regex) : Regex :=
  .sequences ([.here .textStart] ++ spelled name.toList ++ [component] ++ spelled [','] ++
    [component] ++ spelled [','] ++ [component] ++ rest)

/-- The closing bracket, behind which the text ends. -/
def closing : List Regex :=
  spelled [')'] ++ [.here .textEnd]

/-- What is read as the pattern of colours of three components, with ASCII digits. -/
def rgbRegex : Regex :=
  colorRegex "rgb(" closing

/-- What is read as the pattern of colours with an opacity, with ASCII digits. -/
def rgbaRegex : Regex :=
  colorRegex "rgba(" (spelled [','] ++ opacity :: closing)

theorem read_rgbPattern : (Pattern.read rgbPattern).toOption.map Regex.ascii = some rgbRegex := by
  decide +kernel

theorem read_rgbaPattern :
    (Pattern.read rgbaPattern).toOption.map Regex.ascii = some rgbaRegex := by
  decide +kernel

/-- The components by the number of their digits. -/
theorem language_component : component.language =
    numerals 3 (Set.Icc 100 255) + (numerals 2 (Set.Icc 10 99) + numerals 1 (Set.Icc 0 9)) := by
  simp only [component, Regex.choices, Regex.sequences, Regex.language_choice,
    Regex.language_sequence, Regex.language_group, Regex.language_optional, language_digit,
    Nat.le_refl, Nat.reduceLeDiff, add_mul, one_mul, Pattern.numerals_mul, Pattern.numerals_add]
  rw [← add_assoc, Pattern.numerals_add, add_comm (numerals 1 _)]
  refine congrArg₂ (· + ·) (Pattern.numerals_congr fun n hn => ?_)
    (congrArg (· + _) (Pattern.numerals_congr fun n hn => ?_))
  · simp only [Set.mem_union, Set.mem_ofPred_eq, Set.mem_Icc]
    omega
  · simp only [Set.mem_ofPred_eq, Set.mem_Icc]
    omega

/-- **A component** is a number below two hundred fifty-six, without needless zeros. -/
theorem mem_language_component_iff {cs : List Char} :
    cs ∈ component.language ↔ ∃ n ≤ 255, cs = Nat.toDigits 10 n := by
  have hthree : ∀ n ∈ Set.Icc 100 255, (Nat.toDigits 10 n).length = 3 := fun n hn =>
    @Pattern.length_toDigits 1 n hn.1 (Nat.lt_of_le_of_lt hn.2 (by decide))
  have htwo : ∀ n ∈ Set.Icc 10 99, (Nat.toDigits 10 n).length = 2 := fun n hn =>
    @Pattern.length_toDigits 0 n hn.1 (Nat.lt_of_le_of_lt hn.2 (by decide))
  have hone : ∀ n ∈ Set.Icc 0 9, (Nat.toDigits 10 n).length = 1 := fun n hn => by
    rw [Nat.toDigits_of_lt_base (Nat.lt_of_le_of_lt hn.2 (by decide)), List.length_singleton]
  rw [language_component, Language.mem_add, Language.mem_add,
    Pattern.mem_numerals_iff_of_length hthree, Pattern.mem_numerals_iff_of_length htwo,
    Pattern.mem_numerals_iff_of_length hone]
  constructor
  · rintro (⟨n, ⟨-, hle⟩, rfl⟩ | ⟨n, ⟨-, hle⟩, rfl⟩ | ⟨n, ⟨-, hle⟩, rfl⟩)
    · exact ⟨n, hle, rfl⟩
    · exact ⟨n, Nat.le_trans hle (by decide), rfl⟩
    · exact ⟨n, Nat.le_trans hle (by decide), rfl⟩
  · rintro ⟨n, hle, rfl⟩
    rcases Nat.lt_or_ge n 10 with hten | hten
    · exact .inr (.inr ⟨n, ⟨Nat.zero_le n, by omega⟩, rfl⟩)
    rcases Nat.lt_or_ge n 100 with hhundred | hhundred
    · exact .inr (.inl ⟨n, ⟨hten, by omega⟩, rfl⟩)
    · exact .inl ⟨n, ⟨hhundred, hle⟩, rfl⟩

theorem mem_component_mul_iff {words : Language Char} {cs : List Char} :
    cs ∈ component.language * words ↔
      ∃ n ≤ 255, ∃ rest ∈ words, cs = Nat.toDigits 10 n ++ rest := by
  rw [Language.mem_mul]
  constructor
  · rintro ⟨_, hcomponent, rest, hrest, rfl⟩
    obtain ⟨n, hn, rfl⟩ := mem_language_component_iff.1 hcomponent
    exact ⟨n, hn, rest, hrest, rfl⟩
  · rintro ⟨n, hn, rest, hrest, rfl⟩
    exact ⟨_, mem_language_component_iff.2 ⟨n, hn, rfl⟩, rest, hrest, rfl⟩

/-- Three components below two hundred fifty-six between commas, and what follows. -/
theorem mem_language_colorRegex_iff {name : String} {rest : List Regex} {cs : List Char} :
    cs ∈ (colorRegex name rest).language ↔ ∃ a ≤ 255, ∃ b ≤ 255, ∃ c ≤ 255,
      ∃ behind ∈ (rest.map Regex.language).prod, cs = name.toList ++ (Nat.toDigits 10 a ++
        ',' :: (Nat.toDigits 10 b ++ ',' :: (Nat.toDigits 10 c ++ behind))) := by
  rw [colorRegex, Regex.language_sequences]
  simp only [List.map_append, List.map_cons, List.map_nil, List.prod_append, List.prod_cons,
    List.prod_nil, Regex.language_here, one_mul, mul_one, mul_assoc,
    Pattern.mem_spelled_mul_iff, mem_component_mul_iff]
  constructor
  · rintro ⟨_, ⟨a, ha, _, ⟨_, ⟨b, hb, _, ⟨_, ⟨c, hc, behind, hbehind, rfl⟩,
      rfl⟩, rfl⟩, rfl⟩, rfl⟩, rfl⟩
    exact ⟨a, ha, b, hb, c, hc, behind, hbehind, rfl⟩
  · rintro ⟨a, ha, b, hb, c, hc, behind, hbehind, rfl⟩
    exact ⟨_, ⟨a, ha, _, ⟨_, ⟨b, hb, _, ⟨_, ⟨c, hc, behind, hbehind, rfl⟩,
      rfl⟩, rfl⟩, rfl⟩, rfl⟩, rfl⟩

theorem mem_language_opacity_iff {cs : List Char} : cs ∈ opacity.language ↔ IsOpacity cs := by
  have hfraction : ∀ {cs}, cs ∈ (Regex.repetition 1 none (digit 0 9)).language ↔
      Integer.IsDigits cs := by
    intro cs
    rw [digit, Pattern.mem_language_repetition_one_iff, Integer.IsDigits, ← List.length_pos_iff]
    refine and_congr (and_iff_left (by simp)) (forall₂_congr fun c _ => ?_)
    rw [Pattern.contains_digitRange (Nat.le_refl 9)]
    exact and_iff_left_of_imp fun hc => ⟨Nat.zero_le _, Nat.le_of_lt_succ (decimal_lt hc)⟩
  simp only [opacity, Regex.choices, Regex.sequences, Regex.language_group, Regex.language_choice,
    Regex.language_sequence, Regex.language_one, Regex.language_optional,
    RangeTable.contains_between, add_mul, one_mul, Language.mem_add, Pattern.mem_charOf_iff,
    Pattern.mem_charOf_mul_iff, hfraction, IsOpacity]
  refine or_congr_right (or_congr_right ⟨?_, ?_⟩)
  · rintro (⟨fraction, hdigits, rfl⟩ | ⟨_, ⟨fraction, hdigits, rfl⟩, rfl⟩)
    · exact ⟨fraction, hdigits, .inl rfl⟩
    · exact ⟨fraction, hdigits, .inr rfl⟩
  · rintro ⟨fraction, hdigits, rfl | rfl⟩
    · exact .inl ⟨fraction, hdigits, rfl⟩
    · exact .inr ⟨_, ⟨fraction, hdigits, rfl⟩, rfl⟩

theorem mem_closing_iff {behind : List Char} :
    behind ∈ (closing.map Regex.language).prod ↔ behind = [')'] := by
  rw [closing, List.map_append, List.prod_append, Pattern.mem_spelled_mul_iff]
  simp [Language.mem_one]

theorem mem_opacity_closing_iff {behind : List Char} :
    behind ∈ ((spelled [','] ++ opacity :: closing).map Regex.language).prod ↔
      ∃ x, IsOpacity x ∧ behind = ',' :: (x ++ [')']) := by
  rw [List.map_append, List.prod_append, List.map_cons, List.prod_cons,
    Pattern.mem_spelled_mul_iff]
  constructor
  · rintro ⟨_, hback, rfl⟩
    obtain ⟨x, hx, _, hclosing, rfl⟩ := Language.mem_mul.1 hback
    obtain rfl := mem_closing_iff.1 hclosing
    exact ⟨x, mem_language_opacity_iff.1 hx, rfl⟩
  · rintro ⟨x, hx, rfl⟩
    exact ⟨_, Language.append_mem_mul (mem_language_opacity_iff.2 hx) (mem_closing_iff.2 rfl), rfl⟩

theorem mem_language_rgbRegex_iff {text : String} : text.toList ∈ rgbRegex.language ↔
    ∃ a ≤ 255, ∃ b ≤ 255, ∃ c ≤ 255,
      text = "rgb(" ++ Nat.repr a ++ "," ++ Nat.repr b ++ "," ++ Nat.repr c ++ ")" := by
  simp only [rgbRegex, mem_language_colorRegex_iff, mem_closing_iff, exists_eq_left,
    ← String.toList_inj, String.toList_append, Nat.toList_repr, List.append_assoc]
  rfl

theorem mem_language_rgbaRegex_iff {text : String} : text.toList ∈ rgbaRegex.language ↔
    ∃ a ≤ 255, ∃ b ≤ 255, ∃ c ≤ 255, ∃ opacity : String, IsOpacity opacity.toList ∧
      text = "rgba(" ++ Nat.repr a ++ "," ++ Nat.repr b ++ "," ++ Nat.repr c ++ "," ++ opacity ++
        ")" := by
  simp only [rgbaRegex, mem_language_colorRegex_iff, mem_opacity_closing_iff,
    ← String.toList_inj, String.toList_append, Nat.toList_repr, List.append_assoc]
  constructor
  · rintro ⟨a, ha, b, hb, c, hc, _, ⟨x, hx, rfl⟩, htext⟩
    exact ⟨a, ha, b, hb, c, hc, .ofList x, by rwa [String.toList_ofList],
      by rw [htext, @String.toList_ofList x]; rfl⟩
  · rintro ⟨a, ha, b, hb, c, hc, x, hx, htext⟩
    exact ⟨a, ha, b, hb, c, hc, _, ⟨x.toList, hx, rfl⟩, htext⟩

/-! ## The formats -/

/-- **Numbers in a range are accepted exactly**, as far as texts are ASCII: a social security number
by its three groups, and a colour by its components, which are written as numbers are, and by its
opacity. -/
theorem ranges_exact {value : Value} {text : String} (htext : value.text = .ok text)
    (hascii : ∀ c ∈ text.toList, c.toNat < 128) :
    (Accepts "ssn" value ↔ IsSocialSecurityNumber text.toList) ∧
    (Accepts "rgb" value ↔ ∃ a ≤ 255, ∃ b ≤ 255, ∃ c ≤ 255,
      text = "rgb(" ++ Nat.repr a ++ "," ++ Nat.repr b ++ "," ++ Nat.repr c ++ ")") ∧
    (Accepts "rgba" value ↔ ∃ a ≤ 255, ∃ b ≤ 255, ∃ c ≤ 255,
      ∃ opacity : String, IsOpacity opacity.toList ∧ text = "rgba(" ++ Nat.repr a ++ "," ++
        Nat.repr b ++ "," ++ Nat.repr c ++ "," ++ opacity ++ ")") := by
  refine ⟨?_, ?_, ?_⟩
  · rw [accepts_iff rfl,
      Pattern.fixed_eq_ok_iff_of_ascii read_ssnPattern (by decide) htext hascii,
      mem_language_ssnRegex_iff]
  · rw [accepts_iff rfl,
      Pattern.fixed_eq_ok_iff_of_ascii read_rgbPattern (by decide) htext hascii,
      mem_language_rgbRegex_iff]
  · rw [accepts_iff rfl,
      Pattern.fixed_eq_ok_iff_of_ascii read_rgbaPattern (by decide) htext hascii,
      mem_language_rgbaRegex_iff]

/-- The largest first group with the least others, and a colour with a component of each width. -/
theorem ranges_exact_of_bounds :
    (Value.text (.string "899-01-0001") = .ok "899-01-0001" ∧
      (∀ c ∈ "899-01-0001".toList, c.toNat < 128) ∧ Accepts "ssn" (.string "899-01-0001")) ∧
    (Value.text (.string "rgba(0,99,255,.75)") = .ok "rgba(0,99,255,.75)" ∧
      (∀ c ∈ "rgba(0,99,255,.75)".toList, c.toNat < 128) ∧
      Accepts "rgba" (.string "rgba(0,99,255,.75)")) := by
  have hssn : ∀ c ∈ "899-01-0001".toList, c.toNat < 128 := by simp
  have hcolor : ∀ c ∈ "rgba(0,99,255,.75)".toList, c.toNat < 128 := by simp
  have hdigits : ∀ {cs : List Char}, cs.all isAsciiDigit = true → ∀ c ∈ cs, isAsciiDigit c = true :=
    List.all_eq_true.1
  have hnumber : IsSocialSecurityNumber "899-01-0001".toList :=
    ⟨"899".toList, "01".toList, "0001".toList, by decide, ⟨rfl, hdigits (by decide), by decide⟩,
      ⟨rfl, hdigits (by decide), by decide⟩, ⟨rfl, hdigits (by decide), by decide⟩⟩
  have hopacity : IsOpacity ".75".toList :=
    .inr (.inr ⟨"75".toList, ⟨by decide, hdigits (by decide)⟩, .inl rfl⟩)
  exact ⟨⟨rfl, hssn, (ranges_exact rfl hssn).1.2 hnumber⟩, rfl, hcolor,
    (ranges_exact rfl hcolor).2.2.2 ⟨0, by decide, 99, by decide, 255, by decide, ".75", hopacity,
      by decide⟩⟩

end FieldChecks.Format
