import FieldChecks.Proofs.Number.Integer
import FieldChecks.Proofs.Pattern.Language
import Mathlib.Order.Interval.Set.Defs

/-!
# Numerals — numbers of a range, spelled digit by digit

A pattern tells numbers by their digits: it spells a range as a choice of
sequences of digits, each from some digit to another. The words of a
number of digits that write some numbers are a language (`numerals`). A
sequence of two of them is one again, of the numbers whose quotient and
remainder by a power of ten are the numbers of the two
(`numerals_mul`), and a choice between two of a width is one of the
numbers of either (`numerals_add`). So what a pattern spells comes down to
a set of numbers, and the rest is arithmetic.
-/

namespace FieldChecks.Pattern

variable {cs front back : List Char} {width more : Nat} {numbers others : Set Nat}

/-! ## Digits and their number -/

theorem ofDigitChars_append : Nat.ofDigitChars 10 (front ++ back) 0 =
    10 ^ back.length * Nat.ofDigitChars 10 front 0 + Nat.ofDigitChars 10 back 0 := by
  rw [Nat.ofDigitChars_append, Nat.ofDigitChars_eq_ofDigitChars_zero]

theorem ofDigitChars_singleton (c : Char) : Nat.ofDigitChars 10 [c] 0 = decimal c := by
  rw [Nat.ofDigitChars_cons, Nat.ofDigitChars_nil, Nat.mul_zero, Nat.zero_add, decimal]

theorem ofDigitChars_lt (h : ∀ c ∈ cs, isAsciiDigit c = true) :
    Nat.ofDigitChars 10 cs 0 < 10 ^ cs.length := by
  induction cs with
  | nil => simp
  | cons c cs ih =>
    obtain ⟨hc, h⟩ := List.forall_mem_cons.1 h
    have hlt := decimal_lt hc
    have hrest := ih h
    have hmul : 10 ^ cs.length * decimal c ≤ 10 ^ cs.length * 9 := Nat.mul_le_mul_left _ (by omega)
    rw [← List.singleton_append, ofDigitChars_append, ofDigitChars_singleton, List.singleton_append,
      List.length_cons, Nat.pow_succ]
    omega

/-- Two words side by side: the quotient is the number of the first, and the remainder that of the
second. -/
theorem ofDigitChars_append_div_mod (h : ∀ c ∈ back, isAsciiDigit c = true) :
    Nat.ofDigitChars 10 (front ++ back) 0 / 10 ^ back.length = Nat.ofDigitChars 10 front 0 ∧
      Nat.ofDigitChars 10 (front ++ back) 0 % 10 ^ back.length = Nat.ofDigitChars 10 back 0 := by
  have hlt := ofDigitChars_lt h
  rw [ofDigitChars_append, Nat.mul_add_div (Nat.pow_pos (by decide)), Nat.mul_add_mod,
    Nat.div_eq_of_lt hlt, Nat.mod_eq_of_lt hlt]
  exact ⟨rfl, rfl⟩

/-- Words of as many digits that write one number are the same. -/
theorem eq_of_ofDigitChars_eq (hfront : ∀ c ∈ front, isAsciiDigit c = true)
    (hback : ∀ c ∈ back, isAsciiDigit c = true) (hlength : front.length = back.length)
    (h : Nat.ofDigitChars 10 front 0 = Nat.ofDigitChars 10 back 0) : front = back := by
  induction front generalizing back with
  | nil => exact (List.length_eq_zero_iff.1 hlength.symm).symm
  | cons c front ih =>
    obtain _ | ⟨d, back⟩ := back
    · cases hlength
    obtain ⟨hc, hfront⟩ := List.forall_mem_cons.1 hfront
    obtain ⟨hd, hback⟩ := List.forall_mem_cons.1 hback
    have hlength : front.length = back.length := Nat.succ.inj hlength
    rw [← List.singleton_append, ← @List.singleton_append _ d] at h
    obtain ⟨hquotient, hremainder⟩ := @ofDigitChars_append_div_mod [c] front hfront
    obtain ⟨hquotient', hremainder'⟩ := @ofDigitChars_append_div_mod [d] back hback
    rw [h, hlength, hquotient', ofDigitChars_singleton, ofDigitChars_singleton] at hquotient
    rw [h, hlength, hremainder'] at hremainder
    rw [(decimal_inj hc hd).1 hquotient.symm, ih hfront hback hlength hremainder.symm]

/-! ## Numerals -/

/-- The words of a number of digits that write one of some numbers. -/
def numerals (width : Nat) (numbers : Set Nat) : Language Char :=
  {cs | cs.length = width ∧ (∀ c ∈ cs, isAsciiDigit c = true) ∧
    Nat.ofDigitChars 10 cs 0 ∈ numbers}

/-- **A sequence of numerals** writes the numbers that fall into them. -/
theorem numerals_mul : numerals width numbers * numerals more others =
    numerals (width + more) {n | n / 10 ^ more ∈ numbers ∧ n % 10 ^ more ∈ others} := by
  ext cs
  rw [Language.mem_mul]
  constructor
  · rintro ⟨front, ⟨rfl, hfront, hnumber⟩, back, ⟨rfl, hback, hother⟩, rfl⟩
    obtain ⟨hquotient, hremainder⟩ := @ofDigitChars_append_div_mod front back hback
    refine ⟨List.length_append, List.forall_mem_append.2 ⟨hfront, hback⟩, ?_, ?_⟩
    · rwa [hquotient]
    · rwa [hremainder]
  · rintro ⟨hlength, hall, hnumber, hother⟩
    have hcs : cs = cs.take width ++ cs.drop width := (List.take_append_drop width cs).symm
    have hback : (cs.drop width).length = more := by rw [List.length_drop]; omega
    rw [hcs] at hall hnumber hother
    obtain ⟨hfrontDigits, hbackDigits⟩ := List.forall_mem_append.1 hall
    obtain ⟨hquotient, hremainder⟩ := @ofDigitChars_append_div_mod (cs.take width) _ hbackDigits
    rw [hback] at hquotient hremainder
    rw [hquotient] at hnumber
    rw [hremainder] at hother
    refine ⟨cs.take width, ⟨?_, hfrontDigits, hnumber⟩, _, ⟨hback, hbackDigits, hother⟩, hcs.symm⟩
    rw [List.length_take]
    omega

/-- **A choice between numerals** writes the numbers of either. -/
theorem numerals_add :
    numerals width numbers + numerals width others = numerals width (numbers ∪ others) := by
  ext cs
  rw [Language.mem_add]
  constructor
  · rintro (⟨hlength, hall, h⟩ | ⟨hlength, hall, h⟩)
    · exact ⟨hlength, hall, .inl h⟩
    · exact ⟨hlength, hall, .inr h⟩
  · rintro ⟨hlength, hall, h | h⟩
    · exact .inl ⟨hlength, hall, h⟩
    · exact .inr ⟨hlength, hall, h⟩

/-- Numbers of more digits do not count. -/
theorem numerals_congr (h : ∀ n < 10 ^ width, n ∈ numbers ↔ n ∈ others) :
    numerals width numbers = numerals width others := by
  ext cs
  refine and_congr_right ?_
  rintro rfl
  exact and_congr_right fun hall => h _ (ofDigitChars_lt hall)

/-- Numbers that have as many digits are written as they are, without zeros in front. -/
theorem mem_numerals_iff_of_length (h : ∀ n ∈ numbers, (Nat.toDigits 10 n).length = width) :
    cs ∈ numerals width numbers ↔ ∃ n ∈ numbers, cs = Nat.toDigits 10 n := by
  constructor
  · rintro ⟨hlength, hall, hnumber⟩
    refine ⟨_, hnumber, eq_of_ofDigitChars_eq hall
      (fun _ => Integer.isAsciiDigit_of_mem_toDigits) ?_ Nat.ofDigitChars_ten_toDigits.symm⟩
    rw [h _ hnumber, hlength]
  · rintro ⟨n, hn, rfl⟩
    refine ⟨h n hn, fun _ => Integer.isAsciiDigit_of_mem_toDigits, ?_⟩
    rwa [Nat.ofDigitChars_ten_toDigits]

theorem length_toDigits {n : Nat} (hleast : 10 ^ (width + 1) ≤ n) (hmost : n < 10 ^ (width + 2)) :
    (Nat.toDigits 10 n).length = width + 2 := by
  have hle := (Nat.length_toDigits_le_iff (by decide) (by omega)).2 hmost
  have hlt := mt (Nat.length_toDigits_le_iff (by decide) (by omega)).1 (Nat.not_lt.2 hleast)
  omega

/-! ## One digit -/

/-- The digits from one to another. -/
def digitRange (first last : Nat) : RangeTable :=
  ⟨[('0'.toNat + first, '0'.toNat + last)]⟩

theorem contains_digitRange {first last : Nat} (hlast : last ≤ 9) {c : Char} :
    (digitRange first last).contains c = true ↔
      isAsciiDigit c = true ∧ first ≤ decimal c ∧ decimal c ≤ last := by
  have hzero : '0'.toNat = 48 := rfl
  have hnine : '9'.toNat = 57 := rfl
  simp only [RangeTable.contains, digitRange, RangeTable.holds, isAsciiDigit_iff, decimal,
    Bool.or_false]
  split_ifs with hlt
  · rw [iff_false_left (by decide)]
    omega
  · rw [decide_eq_true_iff]
    omega

/-- One digit writes itself. -/
theorem language_digitRange {first last : Nat} (hlast : last ≤ 9) :
    (Regex.one (digitRange first last)).language = numerals 1 (Set.Icc first last) := by
  ext cs
  constructor
  · rintro ⟨c, rfl, hc⟩
    obtain ⟨hdigit, hrange⟩ := (contains_digitRange hlast).1 hc
    refine ⟨rfl, List.forall_mem_singleton.2 hdigit, ?_⟩
    rwa [ofDigitChars_singleton]
  · rintro ⟨hlength, hall, hrange⟩
    obtain ⟨c, rfl⟩ := List.length_eq_one_iff.1 hlength
    rw [ofDigitChars_singleton] at hrange
    exact ⟨c, rfl, (contains_digitRange hlast).2 ⟨hall c List.mem_cons_self, hrange⟩⟩

end FieldChecks.Pattern
