import FieldChecks.Number.Integer
import FieldChecks.Proofs.Result
import FieldChecks.Proofs.Text.Blank
import FieldChecks.Proofs.Text.Digits
import Mathlib.Algebra.Order.Group.Nat

/-!
# Integers in text — what is read, and what is written

An optional sign and decimal digits write an integer (`Writes`). Reading
goes through the digits from the front and gives up at the first that
takes the number out of its range. No digit makes a number smaller, so
that costs nothing: what is read are the writings of the integers that are
in range at the end (`readSigned_eq_ok_iff`, `readUnsigned_eq_ok_iff`). The text of an
integer is a writing of it, without a plus sign and without needless zeros
(`isCanonical_text`).
-/

namespace FieldChecks.Integer

/-! ## Writings -/

/-- One or more decimal digits. -/
def IsDigits (cs : List Char) : Prop :=
  cs ≠ [] ∧ ∀ c ∈ cs, isAsciiDigit c = true

/-- The integers of 64 bits, with a sign or without one. -/
inductive Width where
  | signed
  | unsigned
  deriving Repr, DecidableEq

/-- An integer is in the range of a width. -/
def Width.Fits : Width → Int → Prop
  | .signed, n => -(Nat.pow 2 63 : Int) ≤ n ∧ n < (Nat.pow 2 63 : Int)
  | .unsigned, n => 0 ≤ n ∧ n < (Nat.pow 2 64 : Int)

/-- Digits behind an optional sign write an integer. There is a minus sign only where integers have
signs. -/
inductive Writes : Width → List Char → Int → Prop
  | plain {width : Width} {cs : List Char} (h : IsDigits cs) :
      Writes width cs (Nat.ofDigitChars 10 cs 0)
  | plus {width : Width} {cs : List Char} (h : IsDigits cs) :
      Writes width ('+' :: cs) (Nat.ofDigitChars 10 cs 0)
  | minus {cs : List Char} (h : IsDigits cs) :
      Writes .signed ('-' :: cs) (-(Nat.ofDigitChars 10 cs 0 : Int))

/-- A text writes an integer in the range of a width. -/
structure Reads (width : Width) (text : String) (n : Int) : Prop where
  writes : Writes width text.toList n
  fits : width.Fits n

variable {cs : List Char} {c : Char} {limit value n : Nat} {beyond : IntegerFault}

/-! ## Reading -/

/-- Further digits do not make a number smaller. -/
theorem le_ofDigitChars (cs : List Char) (n : Nat) : n ≤ Nat.ofDigitChars 10 cs n := by
  rw [Nat.ofDigitChars_eq_ofDigitChars_zero]
  have hpow : 0 < 10 ^ cs.length := Nat.pow_pos (by decide)
  exact Nat.le_trans (Nat.le_mul_of_pos_left n hpow) (Nat.le_add_right _ _)

theorem ofDigitChars_cons (c : Char) (cs : List Char) (n : Nat) :
    Nat.ofDigitChars 10 (c :: cs) n = Nat.ofDigitChars 10 cs (10 * n + decimal c) := by
  rw [Nat.ofDigitChars_eq_foldl, Nat.ofDigitChars_eq_foldl, List.foldl_cons, decimal]

/-- **Reading on** gives the number that the digits write, if it is within the limit. -/
theorem readOn_eq_ok_iff (hvalue : value ≤ limit) :
    readOn limit beyond value cs = .ok n ↔
      (∀ c ∈ cs, isAsciiDigit c = true) ∧ Nat.ofDigitChars 10 cs value = n ∧ n ≤ limit := by
  induction cs generalizing value with
  | nil =>
    simp only [readOn, Except.ok.injEq, List.not_mem_nil, false_imp_iff, implies_true, true_and,
      Nat.ofDigitChars_nil]
    exact ⟨fun h => ⟨h, h ▸ hvalue⟩, fun h => h.1⟩
  | cons c cs ih =>
    rw [readOn, digit?_ten, List.forall_mem_cons, ofDigitChars_cons]
    cases hc : isAsciiDigit c with
    | false => simp
    | true =>
      by_cases hbeyond : limit < 10 * value + decimal c
      · -- the number is beyond the limit, and stays there
        have hgrows := le_ofDigitChars cs (10 * value + decimal c)
        simp only [if_true, if_pos hbeyond, reduceCtorEq, false_iff]
        rintro ⟨-, rfl, hle⟩
        omega
      · simpa [hbeyond] using ih (Nat.le_of_not_lt hbeyond)

theorem readDigits_eq_ok_iff :
    readDigits limit beyond cs = .ok n ↔
      IsDigits cs ∧ Nat.ofDigitChars 10 cs 0 = n ∧ n ≤ limit := by
  rw [readDigits, IsDigits]
  cases cs with
  | nil => simp
  | cons c cs =>
    have hread : readOn limit beyond 0 (c :: cs) = .ok n ↔ _ := readOn_eq_ok_iff (Nat.zero_le limit)
    simpa using hread

theorem map_readDigits_eq_ok_iff {α : Type} {f : Nat → α} {a : α} :
    (readDigits limit beyond cs).map f = .ok a ↔
      IsDigits cs ∧ Nat.ofDigitChars 10 cs 0 ≤ limit ∧ f (Nat.ofDigitChars 10 cs 0) = a := by
  constructor
  · intro h
    cases hread : readDigits limit beyond cs with
    | error fault =>
      rw [hread] at h
      cases h
    | ok n =>
      obtain ⟨hdigits, rfl, hle⟩ := readDigits_eq_ok_iff.1 hread
      rw [hread] at h
      exact ⟨hdigits, hle, Except.ok.inj h⟩
  · rintro ⟨hdigits, hle, rfl⟩
    have hread : readDigits limit beyond cs = .ok (Nat.ofDigitChars 10 cs 0) :=
      readDigits_eq_ok_iff.2 ⟨hdigits, rfl, hle⟩
    rw [hread]
    rfl

theorem not_isDigits_cons (hc : isAsciiDigit c = false) : ¬ IsDigits (c :: cs) := by
  rintro ⟨-, hdigits⟩
  simpa [hc] using hdigits c List.mem_cons_self

/-! A text begins with a plus sign, with a minus sign or with neither, and each of the three is
written in one way only. -/

section Writings

variable {width : Width} {m : Int}

theorem not_writes_nil : ¬ Writes width [] m := by
  rintro (h | h)
  exact h.1 rfl

theorem writes_plus_iff :
    Writes width ('+' :: cs) m ↔ IsDigits cs ∧ m = Nat.ofDigitChars 10 cs 0 := by
  constructor
  · rintro (h | h)
    · exact absurd h (not_isDigits_cons rfl)
    · exact ⟨h, rfl⟩
  · rintro ⟨h, rfl⟩
    exact .plus h

theorem writes_minus_iff :
    Writes width ('-' :: cs) m ↔
      width = .signed ∧ IsDigits cs ∧ m = -(Nat.ofDigitChars 10 cs 0 : Int) := by
  constructor
  · rintro (h | h)
    · exact absurd h (not_isDigits_cons rfl)
    · exact ⟨rfl, ‹_›, rfl⟩
  · rintro ⟨rfl, h, rfl⟩
    exact .minus h

/-- Where there can be no sign in front, there are digits only. -/
theorem writes_plain_iff (hplus : ∀ rest, cs ≠ '+' :: rest)
    (hminus : width = .signed → ∀ rest, cs ≠ '-' :: rest) :
    Writes width cs m ↔ IsDigits cs ∧ m = Nat.ofDigitChars 10 cs 0 := by
  constructor
  · rintro (h | h | h)
    · exact ⟨h, rfl⟩
    · exact absurd rfl (hplus _)
    · exact absurd rfl (hminus rfl _)
  · rintro ⟨h, rfl⟩
    exact .plain h

end Writings

/-! The limit of the digits behind each sign is the range of the integers. -/

theorem ofInt_natCast_iff {k : Int64} :
    n ≤ Nat.pow 2 63 - 1 ∧ Int64.ofInt n = k ↔ k.toInt = n := by
  have hlt := k.toInt_lt
  have hpow : Nat.pow 2 63 = 9223372036854775808 := rfl
  constructor
  · rintro ⟨hle, rfl⟩
    exact Int64.toInt_ofInt_of_le (by omega) (by omega)
  · intro hk
    exact ⟨by omega, by rw [← hk, Int64.ofInt_toInt]⟩

theorem ofInt_neg_natCast_iff {k : Int64} :
    n ≤ Nat.pow 2 63 ∧ Int64.ofInt (-n) = k ↔ k.toInt = -n := by
  have hle := k.le_toInt
  have hpow : Nat.pow 2 63 = 9223372036854775808 := rfl
  constructor
  · rintro ⟨hle, rfl⟩
    exact Int64.toInt_ofInt_of_le (by omega) (by omega)
  · intro hk
    exact ⟨by omega, by rw [← hk, Int64.ofInt_toInt]⟩

theorem ofNat_iff {k : UInt64} :
    n ≤ Nat.pow 2 64 - 1 ∧ UInt64.ofNat n = k ↔ (k.toNat : Int) = n := by
  have hlt := k.toNat_lt
  have hpow : Nat.pow 2 64 = 18446744073709551616 := rfl
  constructor
  · rintro ⟨hle, rfl⟩
    rw [UInt64.toNat_ofNat_of_lt' (by rw [UInt64.size]; omega)]
  · intro hk
    have hnat : k.toNat = n := by omega
    exact ⟨by omega, by rw [← hnat, UInt64.ofNat_toNat]⟩

/-- **Signed integers are read** from their writings, and from nothing else. -/
theorem readSigned_eq_ok_iff {text : String} {k : Int64} :
    readSigned text = .ok k ↔ Writes .signed text.toList k.toInt := by
  rw [readSigned]
  split
  · rename_i h
    rw [h, iff_false_right not_writes_nil]
    exact nofun
  · rename_i cs h
    rw [h, writes_plus_iff, map_bind_pure, map_readDigits_eq_ok_iff, ofInt_natCast_iff]
  · rename_i cs h
    rw [h, writes_minus_iff, map_bind_pure, map_readDigits_eq_ok_iff, ofInt_neg_natCast_iff]
    simp
  · rename_i hnil hplus hminus
    rw [writes_plain_iff hplus fun _ => hminus, map_bind_pure, map_readDigits_eq_ok_iff, ofInt_natCast_iff]

/-- **Unsigned integers are read** from their writings, and from nothing else. -/
theorem readUnsigned_eq_ok_iff {text : String} {k : UInt64} :
    readUnsigned text = .ok k ↔ Writes .unsigned text.toList k.toNat := by
  rw [readUnsigned]
  split
  · rename_i h
    rw [h, iff_false_right not_writes_nil]
    exact nofun
  · rename_i cs h
    rw [h, writes_plus_iff, map_readDigits_eq_ok_iff, ofNat_iff]
  · rename_i hnil hplus
    have hunsigned : Width.unsigned = .signed → ∀ rest, text.toList ≠ '-' :: rest := nofun
    rw [writes_plain_iff hplus hunsigned, map_readDigits_eq_ok_iff, ofNat_iff]

/-- **What is read is written in the range of the width**, signed. -/
theorem reads_signed_iff {text : String} {m : Int} :
    Reads .signed text m ↔ ∃ k, readSigned text = .ok k ∧ k.toInt = m := by
  have hpow : Nat.pow 2 63 = 9223372036854775808 := rfl
  constructor
  · rintro ⟨hwrites, hleast, hmost⟩
    have hvalue : (Int64.ofInt m).toInt = m := Int64.toInt_ofInt_of_le (by omega) (by omega)
    exact ⟨.ofInt m, readSigned_eq_ok_iff.2 (by rwa [hvalue]), hvalue⟩
  · rintro ⟨k, hread, rfl⟩
    have hleast := k.le_toInt
    have hmost := k.toInt_lt
    refine ⟨readSigned_eq_ok_iff.1 hread, ?_⟩
    rw [Width.Fits]
    omega

/-- **What is read is written in the range of the width**, unsigned. -/
theorem reads_unsigned_iff {text : String} {m : Int} :
    Reads .unsigned text m ↔ ∃ k, readUnsigned text = .ok k ∧ (k.toNat : Int) = m := by
  have hpow : Nat.pow 2 64 = 18446744073709551616 := rfl
  constructor
  · rintro ⟨hwrites, hleast, hmost⟩
    obtain ⟨n, rfl⟩ := Int.eq_ofNat_of_zero_le hleast
    have hvalue : (UInt64.ofNat n).toNat = n :=
      UInt64.toNat_ofNat_of_lt' (by rw [UInt64.size]; omega)
    exact ⟨.ofNat n, readUnsigned_eq_ok_iff.2 (by rwa [hvalue]), by rw [hvalue]⟩
  · rintro ⟨k, hread, rfl⟩
    have hlt := k.toNat_lt
    refine ⟨readUnsigned_eq_ok_iff.1 hread, ?_⟩
    rw [Width.Fits]
    omega

/-! ## Writing -/

/-- The decimal digits of a number, without needless zeros in front. -/
structure IsDecimal (cs : List Char) (n : Nat) : Prop where
  digits : IsDigits cs
  value : Nat.ofDigitChars 10 cs 0 = n
  head_ne_zero : n ≠ 0 → cs.head? ≠ some '0'
  zero : n = 0 → cs = ['0']

/-- The canonical writing of an integer: its decimal digits, behind a minus sign if it is
negative. -/
inductive IsCanonical : List Char → Int → Prop
  | natural {cs : List Char} {n : Nat} (h : IsDecimal cs n) : IsCanonical cs n
  | negative {cs : List Char} {n : Nat} (h : IsDecimal cs (n + 1)) :
      IsCanonical ('-' :: cs) (-(n + 1 : Nat))

theorem isAsciiDigit_of_mem_toDigits (h : c ∈ Nat.toDigits 10 n) : isAsciiDigit c = true :=
  isAsciiDigit_of_digit? (digit?_isSome_of_mem_toDigits (by decide) (by decide) h)

theorem isDigits_toDigits (n : Nat) : IsDigits (Nat.toDigits 10 n) :=
  ⟨Nat.toDigits_ne_nil, fun _ => isAsciiDigit_of_mem_toDigits⟩

/-- The first digit of a number is that of its tenth. -/
theorem head?_toDigits_ne_zero (hn : n ≠ 0) : (Nat.toDigits 10 n).head? ≠ some '0' := by
  induction n using Nat.strongRecOn with
  | ind n ih =>
    rw [Nat.toDigits_eq_if (by decide)]
    split
    · rename_i hlt
      have hdigit : ∀ n < 10, n ≠ 0 → Nat.digitChar n ≠ '0' := by decide
      simpa using hdigit n hlt hn
    · rename_i hge
      have htenth := ih (n / 10) (by omega) (by omega)
      rwa [List.head?_append_of_ne_nil _ Nat.toDigits_ne_nil]

/-- **The digits of a number are its decimal digits.** -/
theorem isDecimal_toDigits (n : Nat) : IsDecimal (Nat.toDigits 10 n) n where
  digits := isDigits_toDigits n
  value := Nat.ofDigitChars_ten_toDigits
  head_ne_zero := head?_toDigits_ne_zero
  zero h := by rw [h, Nat.toDigits_zero]

/-- **The text of an integer is its canonical writing.** -/
theorem isCanonical_text (m : Int) : IsCanonical (text m).toList m := by
  cases m with
  | ofNat n =>
    rw [text, Nat.toList_repr]
    exact .natural (isDecimal_toDigits n)
  | negSucc n =>
    rw [text, String.toList_append, Nat.toList_repr]
    exact .negative (isDecimal_toDigits (n + 1))

theorem text_natCast (n : Nat) : text n = n.repr := rfl

/-! Without its sign, the text of an integer is that of its absolute value. -/

theorem text_of_nonneg {m : Int} (h : 0 ≤ m) : text m = m.natAbs.repr := by
  cases m with
  | ofNat n => rfl
  | negSucc n => exact absurd h (by omega)

theorem toList_text_of_neg {m : Int} (h : m < 0) :
    (text m).toList = '-' :: m.natAbs.repr.toList := by
  cases m with
  | ofNat n => exact absurd h (by simp)
  | negSucc n => rw [text, String.toList_append, Int.natAbs_negSucc]; rfl

/-- What takes a minus sign away leaves nothing of the sign. -/
theorem filter_text {keeps : Char → Bool} (h : keeps '-' = false) (m : Int) :
    (text m).toList.filter keeps = m.natAbs.repr.toList.filter keeps := by
  by_cases hm : 0 ≤ m
  · rw [text_of_nonneg hm]
  · rw [toList_text_of_neg (by omega), List.filter_cons_of_neg (by simp [h])]

/-! ## Writings of one integer

A writing tells its integer, and where only negative integers have a minus sign it is a writing in
every width that the integer is in range of. -/

/-- Digits write an integer that is not negative, behind a plus sign or nothing, and a negative one
behind a minus sign. -/
def WritesPlainly (cs : List Char) (m : Int) : Prop :=
  (0 ≤ m ∧ Writes .unsigned cs m) ∨ (m < 0 ∧ Writes .signed cs m)

section Plain

variable {width other : Width} {m k : Int} {text : String}

theorem Writes.signed (h : Writes .unsigned cs m) : Writes .signed cs m := by
  cases h with
  | plain h => exact .plain h
  | plus h => exact .plus h

/-- **A writing tells its integer**, whatever the widths. -/
theorem Writes.unique (h : Writes width cs m) (h' : Writes other cs k) : m = k := by
  cases h with
  | plain h =>
    cases h' with
    | plain h' => rfl
    | plus h' => exact absurd h (not_isDigits_cons rfl)
    | minus h' => exact absurd h (not_isDigits_cons rfl)
  | plus h => exact (writes_plus_iff.1 h').2.symm
  | minus h => exact (writes_minus_iff.1 h').2.2.symm

/-- **What is written plainly is read in every width that it fits**, and in no other. -/
theorem WritesPlainly.reads_iff (h : WritesPlainly text.toList m) :
    Reads width text k ↔ k = m ∧ width.Fits m := by
  constructor
  · rintro ⟨hwrites, hfits⟩
    obtain rfl : k = m := by
      rcases h with ⟨-, h⟩ | ⟨-, h⟩
      · exact hwrites.unique h
      · exact hwrites.unique h
    exact ⟨rfl, hfits⟩
  · rintro ⟨rfl, hfits⟩
    refine ⟨?_, hfits⟩
    rcases h with ⟨-, h⟩ | ⟨hneg, h⟩
    · cases width with
      | signed => exact h.signed
      | unsigned => exact h
    · cases width with
      | signed => exact h
      | unsigned => exact absurd hfits.1 (by omega)

theorem IsCanonical.writesPlainly (h : IsCanonical cs m) : WritesPlainly cs m := by
  cases h with
  | natural h =>
    exact .inl ⟨by omega, by simpa only [h.value] using Writes.plain h.digits⟩
  | negative h =>
    exact .inr ⟨by omega, by simpa only [h.value] using Writes.minus h.digits⟩

theorem isBlank_of_isAsciiDigit (h : isAsciiDigit c = true) : isBlank c = false := by
  have hdigits : ∀ n < 10, isBlank (Nat.digitChar n) = false := by decide
  rw [← digitChar_decimal h]
  exact hdigits _ (decimal_lt h)

/-- No digit and no sign is blank. -/
theorem Writes.not_isBlank (h : Writes width cs m) : ∀ c ∈ cs, isBlank c = false := by
  have hdigits : ∀ {cs}, IsDigits cs → ∀ c ∈ cs, isBlank c = false :=
    fun h c hc => isBlank_of_isAsciiDigit (h.2 c hc)
  cases h with
  | plain h => exact hdigits h
  | plus h => exact List.forall_mem_cons.2 ⟨by decide, hdigits h⟩
  | minus h => exact List.forall_mem_cons.2 ⟨by decide, hdigits h⟩

/-- **Nothing of a writing is trimmed.** -/
theorem Writes.trim_eq (h : Writes width text.toList m) : Text.trim text = text :=
  Text.trim_eq_self fun c hc => by simp [h.not_isBlank c hc]

/-- The text of an integer writes it plainly, and stays as it is between blanks. -/
theorem writesPlainly_of_text (h : Integer.text m = text) :
    WritesPlainly (Text.trim text).toList m := by
  have hplain : WritesPlainly text.toList m := h ▸ (isCanonical_text m).writesPlainly
  have htrim : Text.trim text = text := by
    rcases hplain with ⟨-, hwrites⟩ | ⟨-, hwrites⟩
    · exact hwrites.trim_eq
    · exact hwrites.trim_eq
  rwa [htrim]

end Plain

end FieldChecks.Integer
