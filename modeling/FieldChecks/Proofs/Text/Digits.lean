import FieldChecks.Text.Ascii
import Mathlib.Tactic.ByContra
import Mathlib.Tactic.SplitIfs

/-!
# Digits — a number is read back from its digits

The digits of a number are taken off its end, one remainder at a time;
reading goes from the front and carries the value along. Both meet at the
last digit, so a number comes back whatever the base
(`digitsValue?_toDigits`). Code points in escapes and positions in source
text are written so. A digit of base ten is told by the number that it
stands for (`decimal_inj`, `exists_decimal`), which is what checksums add
up.
-/

namespace FieldChecks

/-- What holds of the characters of the first 128 numbers holds of every ASCII character. -/
theorem forall_ascii {p : Char → Prop} (h : ∀ n < 128, p (Char.ofNat n)) (c : Char)
    (hascii : c.toNat < 128) : p c := by
  have hc := h c.toNat hascii
  rwa [Char.ofNat_toNat] at hc

variable {base : Nat}

theorem digit?_digitChar {n : Nat} (hbase : base ≤ 16) (h : n < base) :
    digit? base (Nat.digitChar n) = some n := by
  have hhex : ∀ n < 16, hexDigit? (Nat.digitChar n) = some n := by decide
  simp [digit?, hhex n (by omega), h]

/-- The digits of base ten are the ASCII digits. -/
theorem isAsciiDigit_of_digit? {c : Char} (h : (digit? 10 c).isSome) : isAsciiDigit c = true := by
  obtain ⟨value, hvalue⟩ := Option.isSome_iff_exists.1 h
  obtain ⟨hhex, hlt⟩ := Option.filter_eq_some_iff.1 hvalue
  have hlt : value < 10 := of_decide_eq_true hlt
  rw [hexDigit?] at hhex
  split_ifs at hhex with hdigit
  · simpa [isAsciiDigit] using hdigit
  all_goals
    obtain rfl := Option.some.inj hhex
    omega

/-! ## Digits of base ten -/

/-- The number that a decimal digit stands for. -/
def decimal (c : Char) : Nat :=
  c.toNat - '0'.toNat

theorem isAsciiDigit_iff {c : Char} :
    isAsciiDigit c = true ↔ '0'.toNat ≤ c.toNat ∧ c.toNat ≤ '9'.toNat := by
  rw [isAsciiDigit, Bool.and_eq_true, decide_eq_true_eq, decide_eq_true_eq]
  exact Iff.rfl

theorem decimal_lt {c : Char} (h : isAsciiDigit c = true) : decimal c < 10 := by
  obtain ⟨-, hle⟩ := isAsciiDigit_iff.1 h
  have hnine : '9'.toNat = 57 := rfl
  have hzero : '0'.toNat = 48 := rfl
  rw [decimal]
  omega

/-- Different digits stand for different numbers. -/
theorem decimal_inj {c d : Char} (hc : isAsciiDigit c = true) (hd : isAsciiDigit d = true) :
    decimal c = decimal d ↔ c = d := by
  obtain ⟨hc, -⟩ := isAsciiDigit_iff.1 hc
  obtain ⟨hd, -⟩ := isAsciiDigit_iff.1 hd
  refine ⟨fun h => Char.toNat_inj.1 ?_, congrArg decimal⟩
  rw [decimal, decimal] at h
  omega

theorem decimal_digitChar {n : Nat} (h : n < 10) :
    isAsciiDigit (Nat.digitChar n) = true ∧ decimal (Nat.digitChar n) = n := by
  have hdigits : ∀ n < 10,
      isAsciiDigit (Nat.digitChar n) = true ∧ decimal (Nat.digitChar n) = n := by decide
  exact hdigits n h

/-- Every number below ten has its digit. -/
theorem exists_decimal {n : Nat} (h : n < 10) : ∃ c, isAsciiDigit c = true ∧ decimal c = n :=
  ⟨Nat.digitChar n, decimal_digitChar h⟩

theorem digitChar_decimal {c : Char} (h : isAsciiDigit c = true) :
    Nat.digitChar (decimal c) = c := by
  obtain ⟨hdigit, hvalue⟩ := decimal_digitChar (decimal_lt h)
  exact (decimal_inj hdigit h).1 hvalue

/-- The digits of base ten are the ASCII digits, and stand for the same numbers. -/
theorem digit?_ten (c : Char) :
    digit? 10 c = if isAsciiDigit c then some (decimal c) else none := by
  cases h : isAsciiDigit c with
  | false =>
    have hnone : ¬ (digit? 10 c).isSome := fun hsome => by simp [isAsciiDigit_of_digit? hsome] at h
    simpa using hnone
  | true =>
    have hlt := decimal_lt h
    have hhex : hexDigit? c = some (decimal c) := if_pos (by simpa [isAsciiDigit] using h)
    simp [digit?, hhex, hlt]

/-! ## Digits of numbers -/

/-- The last digit counts once, and those in front of it as often as the base says. -/
theorem digitsValue?_append_singleton (cs : List Char) (c : Char) :
    digitsValue? base (cs ++ [c]) =
      (digitsValue? base cs).bind fun n => (digit? base c).map (base * n + ·) := by
  simp [digitsValue?, List.foldlM_append]

/-- **A number is read back from its digits.** -/
theorem digitsValue?_toDigits (hbase : 1 < base) (hmost : base ≤ 16) (n : Nat) :
    digitsValue? base (Nat.toDigits base n) = some n := by
  induction n using Nat.strongRecOn with
  | ind n ih =>
    rw [Nat.toDigits_eq_if hbase]
    split
    · rename_i hlt
      simp [digitsValue?, digit?_digitChar hmost hlt]
    · rename_i hge
      have hlt : n / base < n := Nat.div_lt_self (by omega) hbase
      have hdigit : digit? base (Nat.digitChar (n % base)) = some (n % base) :=
        digit?_digitChar hmost (Nat.mod_lt n (by omega))
      rw [digitsValue?_append_singleton, ih _ hlt, hdigit]
      simp [Nat.div_add_mod]

/-- Every digit of a number is one of the base. -/
theorem digit?_isSome_of_mem_toDigits (hbase : 1 < base) (hmost : base ≤ 16) {n : Nat} {c : Char}
    (h : c ∈ Nat.toDigits base n) : (digit? base c).isSome := by
  induction n using Nat.strongRecOn with
  | ind n ih =>
    rw [Nat.toDigits_eq_if hbase] at h
    split at h
    · rename_i hlt
      rw [List.mem_singleton.1 h, digit?_digitChar hmost hlt]
      rfl
    · rename_i hge
      rcases List.mem_append.1 h with hfront | hlast
      · exact ih _ (Nat.div_lt_self (by omega) hbase) hfront
      · rw [List.mem_singleton.1 hlast, digit?_digitChar hmost (Nat.mod_lt n (by omega))]
        rfl

/-! ## Hexadecimal digits -/

theorem isHexDigit_of_mem_hexDigits {n : Nat} {c : Char} (h : c ∈ hexDigits n) :
    isHexDigit c = true := by
  have hdigit := digit?_isSome_of_mem_toDigits (by decide) (by decide) h
  cases hc : hexDigit? c with
  | none => simp [digit?, hc] at hdigit
  | some d => simp [isHexDigit, hc]

theorem ascii_of_isHexDigit {c : Char} (h : isHexDigit c = true) : c.toNat < 128 := by
  by_contra hhigh
  have hbound : ∀ {d : Char}, d.toNat < 128 → ¬ c ≤ d := fun hd hle =>
    hhigh (Nat.lt_of_le_of_lt hle hd)
  simp [isHexDigit, hexDigit?, @hbound '9' (by decide), @hbound 'f' (by decide),
    @hbound 'F' (by decide)] at h

/-- Only ASCII letters have a lower case of their own. -/
theorem asciiLower_of_not_ascii {c : Char} (h : 128 ≤ c.toNat) : asciiLower c = c := by
  refine if_neg fun hupper => ?_
  have hle : c.toNat ≤ 'Z'.toNat := hupper.2
  have hz : 'Z'.toNat = 90 := rfl
  omega

theorem isHexDigit_asciiLower (c : Char) : isHexDigit (asciiLower c) = isHexDigit c := by
  by_cases hascii : c.toNat < 128
  · exact @forall_ascii (fun c => isHexDigit (asciiLower c) = isHexDigit c) (by decide) c hascii
  · rw [asciiLower_of_not_ascii (Nat.not_lt.1 hascii)]

end FieldChecks
