import FieldChecks.Checksum.Luhn
import FieldChecks.Proofs.Checksum.Positional
import FieldChecks.Proofs.Text.Digits
import Mathlib.Data.Nat.Digits.Defs
import Mathlib.Tactic.IntervalCases

/-!
# The Luhn sum — a sum over positions from the right

Going from right to left, the check doubles every second digit and takes
nine off what has two digits. What a digit adds depends on its position
alone: itself at even positions, and the digits of its double at odd ones
(`contribution`). The state after some digits is the sum of what they add,
and whether their number is odd (`sumOn_append`). No digit adds more than
nine, so up to `mostDigits` of them the words hold their sums, and the
answer is the same on every machine (`checkOn_eq_check`). With one digit
more the sum may be no word (`checkOn_checked_of_nines`).
-/

namespace FieldChecks.Luhn

/-! ## What a digit adds -/

/-- What a digit adds to the sum at a position, counted from the right: itself, or the digits of
its double. -/
def contribution (position : Nat) (c : Char) : Nat :=
  if position % 2 = 0 then decimal c else (Nat.digits 10 (2 * decimal c)).sum

/-- The sum of digits, each at its position from the right. -/
def total (cs : List Char) : Nat :=
  positionalSum contribution 0 cs.reverse

variable {c : Char} {i : Nat}

/-- A double of two digits has ten in front, so its digits add up to nine less. -/
theorem sum_digits_double {d : Nat} (h : d < 10) :
    (Nat.digits 10 (2 * d)).sum = if 9 < 2 * d then 2 * d - 9 else 2 * d := by
  interval_cases d <;> rfl

theorem contribution_even (hi : i % 2 = 0) : contribution i c = decimal c :=
  if_pos hi

theorem contribution_odd (hi : i % 2 = 1) (hc : isAsciiDigit c = true) :
    contribution i c = if 9 < 2 * decimal c then 2 * decimal c - 9 else 2 * decimal c := by
  rw [contribution, if_neg (by omega), sum_digits_double (decimal_lt hc)]

theorem contribution_le (hc : isAsciiDigit c = true) (i : Nat) : contribution i c ≤ 9 := by
  have hlt := decimal_lt hc
  rcases Nat.mod_two_eq_zero_or_one i with hi | hi
  · rw [contribution_even hi]
    omega
  · rw [contribution_odd hi hc]
    split <;> omega

/-! ## The loop -/

section Machine

variable {m : Type → Type} [Monad m] [LawfulMonad m] (machine : Machine m)

theorem doubled_eq (hi : i % 2 = 1) (hc : isAsciiDigit c = true) :
    doubled machine (.ofNat (decimal c)) = pure (.ofNat (contribution i c)) := by
  have hsize : UInt32.size = 4294967296 := rfl
  have hlt := decimal_lt hc
  have hfits : decimal c * 2 < UInt32.size := by omega
  have htwice : machine.mul (.ofNat (decimal c)) 2 = pure (.ofNat (2 * decimal c)) := by
    rw [Nat.mul_comm 2]
    exact machine.mul_ofNat (by omega) (by decide) hfits
  have hless : (9 : UInt32) < .ofNat (2 * decimal c) ↔ 9 < 2 * decimal c := by
    rw [UInt32.lt_iff_toNat_lt, UInt32.toNat_ofNat_of_lt' (by omega)]
    exact Iff.rfl
  rw [doubled, htwice, pure_bind, contribution_odd hi hc]
  by_cases hnine : 9 < 2 * decimal c
  · rw [if_pos (hless.2 hnine), if_pos hnine]
    exact machine.sub_ofNat (Nat.le_of_lt hnine) (by omega)
  · rw [if_neg (mt hless.1 hnine), if_neg hnine]

/-- A digit adds its contribution, whatever the parity of its position. -/
theorem summand_eq (hc : isAsciiDigit c = true) (i : Nat) :
    summand machine (decide (i % 2 = 1)) (.ofNat (decimal c)) =
      pure (.ofNat (contribution i c)) := by
  rcases Nat.mod_two_eq_zero_or_one i with hi | hi
  · simp [summand, hi, contribution_even hi]
  · simp [summand, hi, doubled_eq machine hi hc]

/-- **One step of the loop**: a digit adds its contribution, and the next position is of the other
parity. -/
theorem sumOn_cons {s : Nat} (hc : isAsciiDigit c = true)
    (hs : s + contribution i c < UInt32.size) (cs : List Char) :
    sumOn machine (decide (i % 2 = 1)) (.ofNat s) (c :: cs) =
      sumOn machine (decide ((i + 1) % 2 = 1)) (.ofNat (s + contribution i c)) cs := by
  have hparity : (!decide (i % 2 = 1)) = decide ((i + 1) % 2 = 1) := by
    rcases Nat.mod_two_eq_zero_or_one i with hi | hi
    · have hodd : (i + 1) % 2 = 1 := by omega
      simp [hi, hodd]
    · have heven : (i + 1) % 2 = 0 := by omega
      simp [hi, heven]
  rw [sumOn, digit?_ten, if_pos hc]
  simp only [summand_eq machine hc, pure_bind]
  rw [machine.add_ofNat hs, pure_bind, hparity]

/-- **The loop over digits** carries the sum of what they add on to the rest. -/
theorem sumOn_append {front : List Char} (hfront : ∀ c ∈ front, isAsciiDigit c = true)
    (i s : Nat) (hs : s + 9 * front.length < UInt32.size) (rest : List Char) :
    sumOn machine (decide (i % 2 = 1)) (.ofNat s) (front ++ rest) =
      sumOn machine (decide ((i + front.length) % 2 = 1))
        (.ofNat (s + positionalSum contribution i front)) rest := by
  induction front generalizing i s with
  | nil => simp
  | cons c front ih =>
    have hc : isAsciiDigit c = true := hfront c (by simp)
    have hle := contribution_le hc i
    rw [List.length_cons] at hs
    rw [List.cons_append, sumOn_cons machine hc (by omega),
      ih (fun d hd => hfront d (by simp [hd])) (i + 1) _ (by omega), positionalSum_cons,
      List.length_cons, Nat.add_assoc s, Nat.add_assoc i, Nat.add_comm 1]

/-- Zeros add nothing. -/
theorem sumOn_zeros {s : Nat} (hs : s < UInt32.size) (i n : Nat) :
    sumOn machine (decide (i % 2 = 1)) (.ofNat s) (List.replicate n '0') =
      pure (.ok (.ofNat s)) := by
  have hzero : ∀ i, contribution i '0' = 0 := by
    intro i
    rw [contribution]
    split <;> rfl
  induction n generalizing i with
  | zero => rfl
  | succ n ih =>
    have hstep : s + contribution i '0' = s := by rw [hzero, Nat.add_zero]
    rw [List.replicate_succ, sumOn_cons machine rfl (by rwa [hstep]), hstep, ih]

/-! ## The verdict -/

/-- As many digits as a word holds the sum of, whatever they are. -/
def mostDigits : Nat := 477218588

theorem total_le {d : List Char} (hdigits : ∀ c ∈ d, isAsciiDigit c = true) :
    total d ≤ 9 * d.length := by
  have hle : total d ≤ 9 * d.reverse.length :=
    positionalSum_le (fun i c hc => contribution_le (hdigits c (List.mem_reverse.1 hc)) i) 0
  rwa [List.length_reverse] at hle

variable {text : String} {d : List Char} {n : Nat}

/-- **Digits are judged by their total**, whatever zeros stand in front of them. -/
theorem checkOn_of_digits
    (hd : withoutSeparators text.toList = List.replicate n '0' ++ d) (hne : d ≠ [])
    (hdigits : ∀ c ∈ d, isAsciiDigit c = true) (hlength : d.length ≤ mostDigits) :
    checkOn machine text =
      pure (if 10 ∣ total d then .ok () else .error (wrongSum (strip text))) := by
  have hsize : UInt32.size = 4294967296 := rfl
  have hmost : mostDigits = 477218588 := rfl
  have htotal := total_le hdigits
  have hfits : total d < UInt32.size := by omega
  have hsum : sumOn machine false 0 (d.reverse ++ List.replicate n '0') =
      pure (.ok (.ofNat (total d))) := by
    have hreverse : ∀ c ∈ d.reverse, isAsciiDigit c = true :=
      fun c hc => hdigits c (List.mem_reverse.1 hc)
    have happend := sumOn_append machine hreverse 0 0 (by rw [List.length_reverse]; omega)
      (List.replicate n '0')
    rw [Nat.zero_add, Nat.zero_add] at happend
    exact happend.trans (sumOn_zeros machine hfits _ n)
  have hmod : (UInt32.ofNat (total d) % 10 == 0) = decide (total d % 10 = 0) :=
    mod_ofNat_beq_zero hfits (by decide : 10 < UInt32.size)
  have hempty : (List.replicate n '0' ++ d).isEmpty = false := by simp [hne]
  simp only [checkOn, strip, hd, hempty, List.reverse_append, List.reverse_replicate, hsum,
    pure_bind, hmod, Nat.dvd_iff_mod_eq_zero]
  simp

/-- **The first character from the right that is no digit** is named. -/
theorem checkOn_of_notDigit {front back : List Char} {c : Char}
    (hd : withoutSeparators text.toList = front ++ c :: back) (hc : isAsciiDigit c = false)
    (hback : ∀ b ∈ back, isAsciiDigit b = true) (hlength : back.length ≤ mostDigits) :
    checkOn machine text = pure (.error (notDigit (strip text) c)) := by
  have hsize : UInt32.size = 4294967296 := rfl
  have hmost : mostDigits = 477218588 := rfl
  have hsum : sumOn machine false 0 (back.reverse ++ c :: front.reverse) = pure (.error c) := by
    have hreverse : ∀ b ∈ back.reverse, isAsciiDigit b = true :=
      fun b hb => hback b (List.mem_reverse.1 hb)
    have happend := sumOn_append machine hreverse 0 0 (by rw [List.length_reverse]; omega)
      (c :: front.reverse)
    refine happend.trans ?_
    rw [sumOn, digit?_ten, hc]
    rfl
  simp [checkOn, strip, hd, hsum]

omit [LawfulMonad m] in
theorem checkOn_of_empty (hd : withoutSeparators text.toList = []) :
    checkOn machine text = pure (.error (noDigits (strip text))) := by
  simp [checkOn, strip, hd]

end Machine

theorem check_of_digits {text : String} {d : List Char} {n : Nat}
    (hd : withoutSeparators text.toList = List.replicate n '0' ++ d) (hne : d ≠ [])
    (hdigits : ∀ c ∈ d, isAsciiDigit c = true) (hlength : d.length ≤ mostDigits) :
    check text = if 10 ∣ total d then .ok () else .error (wrongSum (strip text)) :=
  checkOn_of_digits .wrapping hd hne hdigits hlength

theorem check_eq_ok_iff {text : String} {d : List Char} {n : Nat}
    (hd : withoutSeparators text.toList = List.replicate n '0' ++ d) (hne : d ≠ [])
    (hdigits : ∀ c ∈ d, isAsciiDigit c = true) (hlength : d.length ≤ mostDigits) :
    check text = .ok () ↔ 10 ∣ total d := by
  rw [check_of_digits hd hne hdigits hlength]
  by_cases htotal : 10 ∣ total d <;> simp [htotal]

/-- Where there is a character that is no digit, there is a last one. -/
theorem exists_last_notDigit {d : List Char} (h : ¬ ∀ c ∈ d, isAsciiDigit c = true) :
    ∃ front c back, d = front ++ c :: back ∧ isAsciiDigit c = false ∧
      ∀ b ∈ back, isAsciiDigit b = true := by
  induction d with
  | nil => exact absurd nofun h
  | cons c d ih =>
    by_cases hd : ∀ b ∈ d, isAsciiDigit b = true
    · refine ⟨[], c, d, rfl, ?_, hd⟩
      by_contra hc
      exact h (List.forall_mem_cons.2 ⟨by simpa using hc, hd⟩)
    · obtain ⟨front, last, back, rfl, hlast, hback⟩ := ih hd
      exact ⟨c :: front, last, back, rfl, hlast, hback⟩

/-- **The answer is the same on every machine**, as long as there are no more digits than a word
holds the sum of. -/
theorem checkOn_eq_check {m : Type → Type} [Monad m] [LawfulMonad m] (machine : Machine m)
    {text : String} (hlength : (withoutSeparators text.toList).length ≤ mostDigits) :
    checkOn machine text = pure (check text) := by
  rcases hd : withoutSeparators text.toList with _ | ⟨first, rest⟩
  · rw [checkOn_of_empty machine hd]
    exact congrArg pure (checkOn_of_empty .wrapping hd).symm
  · rw [hd] at hlength
    by_cases hdigits : ∀ c ∈ first :: rest, isAsciiDigit c = true
    · have hne : first :: rest ≠ [] := List.cons_ne_nil first rest
      rw [checkOn_of_digits (n := 0) machine hd hne hdigits hlength]
      exact congrArg pure (check_of_digits (n := 0) hd hne hdigits hlength).symm
    · obtain ⟨front, c, back, hsplit, hc, hback⟩ := exists_last_notDigit hdigits
      have hlast : back.length ≤ mostDigits := by
        have hall := congrArg List.length hsplit
        simp only [List.length_cons, List.length_append] at hall hlength
        omega
      rw [hsplit] at hd
      rw [checkOn_of_notDigit machine hd hc hback hlast]
      exact congrArg pure (checkOn_of_notDigit .wrapping hd hc hback hlast).symm

/-! ## One digit more -/

theorem contribution_nine (i : Nat) : contribution i '9' = 9 := by
  rcases Nat.mod_two_eq_zero_or_one i with hi | hi
  · rw [contribution_even hi]
    rfl
  · rw [contribution_odd hi rfl]
    rfl

theorem positionalSum_nines (i n : Nat) :
    positionalSum contribution i (List.replicate n '9') = 9 * n := by
  induction n generalizing i with
  | zero => rfl
  | succ n ih =>
    rw [List.replicate_succ, positionalSum_cons, contribution_nine, ih]
    omega

/-- A nine that would take the sum out of the words stops the loop. -/
theorem sumOn_checked_nine {s : Nat} (hs : s < UInt32.size) (hfull : UInt32.size ≤ s + 9)
    (i : Nat) (cs : List Char) :
    sumOn .checked (decide (i % 2 = 1)) (.ofNat s) ('9' :: cs) = none := by
  have hnine : summand Machine.checked (decide (i % 2 = 1)) (.ofNat 9) = some (.ofNat 9) := by
    have hsummand := summand_eq Machine.checked (c := '9') rfl i
    rwa [contribution_nine] at hsummand
  have hadd : Machine.checked.add (.ofNat s) (.ofNat 9) = none := by
    apply if_neg
    rw [UInt32.toNat_ofNat_of_lt' hs, UInt32.toNat_ofNat_of_lt' (by decide)]
    omega
  have hdigit : digit? 10 '9' = some 9 := rfl
  simp only [sumOn, hdigit, hnine, Option.bind_eq_bind, Option.bind_some, hadd, Option.bind_none]

/-- **The bound is sharp**: the sum of more nines is no word, and then a machine may stop. -/
theorem checkOn_checked_of_nines {n : Nat} (h : mostDigits < n) :
    checkOn .checked (String.ofList (List.replicate n '9')) = none := by
  have hsize : UInt32.size = 4294967296 := rfl
  have hmost : mostDigits = 477218588 := rfl
  obtain ⟨k, rfl⟩ : ∃ k, n = mostDigits + (k + 1) := ⟨n - mostDigits - 1, by omega⟩
  have hd : withoutSeparators (String.ofList (List.replicate (mostDigits + (k + 1)) '9')).toList =
      List.replicate (mostDigits + (k + 1)) '9' := by
    rw [String.toList_ofList, withoutSeparators, List.filter_replicate]
    rfl
  have hnines : ∀ c ∈ List.replicate mostDigits '9', isAsciiDigit c = true := by
    intro c hc
    rw [List.eq_of_mem_replicate hc]
    rfl
  -- as many nines as fit leave room for less than one more
  have hsum : sumOn .checked false 0 (List.replicate (mostDigits + (k + 1)) '9') = none := by
    have happend := sumOn_append .checked hnines 0 0 (by rw [List.length_replicate]; omega)
      (List.replicate (k + 1) '9')
    rw [List.replicate_append_replicate, positionalSum_nines, Nat.zero_add, Nat.zero_add,
      List.length_replicate] at happend
    exact happend.trans (sumOn_checked_nine (by omega) (by omega) mostDigits _)
  have hempty : (List.replicate (mostDigits + (k + 1)) '9').isEmpty = false := by
    rw [← Nat.add_assoc, List.replicate_succ]
    rfl
  simp only [checkOn, hd, hempty, List.reverse_replicate, hsum]
  rfl

/-! ## The answer -/

theorem noDigits_ne_notDigit (digits : String) (c : Char) :
    noDigits digits ≠ notDigit digits c := by
  intro h
  have hchars := congrArg String.toList (CheckError.invalid.inj h)
  simp [String.toList_append] at hchars

theorem noDigits_ne_wrongSum (digits : String) : noDigits digits ≠ wrongSum digits := by
  intro h
  have hchars := congrArg String.toList (CheckError.invalid.inj h)
  simp [String.toList_append] at hchars

/-- Only a number without digits is refused for that. -/
theorem check_eq_noDigits_iff {text : String}
    (hlength : (withoutSeparators text.toList).length ≤ mostDigits) :
    check text = .error (noDigits (strip text)) ↔ withoutSeparators text.toList = [] := by
  refine ⟨fun h => ?_, fun hd => checkOn_of_empty .wrapping hd⟩
  by_contra hne
  by_cases hdigits : ∀ c ∈ withoutSeparators text.toList, isAsciiDigit c = true
  · rw [check_of_digits (n := 0) rfl hne hdigits hlength] at h
    split at h
    · cases h
    · exact noDigits_ne_wrongSum _ (Except.error.inj h).symm
  · obtain ⟨front, c, back, hd, hc, hback⟩ := exists_last_notDigit hdigits
    have hlast : back.length ≤ mostDigits := by
      rw [hd, List.length_append, List.length_cons] at hlength
      omega
    have hcheck : check text = _ := checkOn_of_notDigit .wrapping hd hc hback hlast
    rw [hcheck] at h
    exact noDigits_ne_notDigit _ _ (Except.error.inj h).symm

/-- Separators count for nothing, wherever they stand. -/
theorem check_congr {text other : String}
    (h : withoutSeparators other.toList = withoutSeparators text.toList) :
    check other = check text := by
  simp only [check, checkOn, h]

/-- **The Luhn check is exact.** On a text of no more digits than a word holds the sum of, no step
leaves the words. The text is refused for having no digits if it has none, for the last character
that is no digit if there is one, and otherwise if its total is no multiple of ten. So separators
make no difference anywhere, and zeros in front of a number make none to whether it is accepted. -/
theorem luhn_exact {text : String} {d : List Char} (hd : withoutSeparators text.toList = d)
    (hlength : d.length ≤ mostDigits) :
    checkOn .checked text = some (check text) ∧
    (check text = .error (noDigits (strip text)) ↔ d = []) ∧
    (∀ front c back, d = front ++ c :: back → isAsciiDigit c = false →
      (∀ b ∈ back, isAsciiDigit b = true) →
      check text = .error (notDigit (strip text) c)) ∧
    (d ≠ [] → (∀ c ∈ d, isAsciiDigit c = true) →
      check text = if 10 ∣ total d then .ok () else .error (wrongSum (strip text))) ∧
    (∀ other : String, withoutSeparators other.toList = d → check other = check text) ∧
    (d ≠ [] → (∀ c ∈ d, isAsciiDigit c = true) → ∀ n,
      (check (String.ofList (List.replicate n '0') ++ text) = .ok () ↔ check text = .ok ())) := by
  subst hd
  refine ⟨checkOn_eq_check .checked hlength, check_eq_noDigits_iff hlength, ?_, ?_, ?_, ?_⟩
  · intro front c back hd hc hback
    have hlast : back.length ≤ mostDigits := by
      rw [hd, List.length_append, List.length_cons] at hlength
      omega
    exact checkOn_of_notDigit .wrapping hd hc hback hlast
  · intro hne hdigits
    exact check_of_digits (n := 0) rfl hne hdigits hlength
  · intro other hother
    exact check_congr hother
  · intro hne hdigits n
    -- the zeros are no separators, so they stand in front of the same digits
    have hzeros : withoutSeparators (String.ofList (List.replicate n '0') ++ text).toList =
        List.replicate n '0' ++ withoutSeparators text.toList := by
      simp [withoutSeparators]
    exact (check_eq_ok_iff hzeros hne hdigits hlength).trans
      (check_eq_ok_iff (n := 0) rfl hne hdigits hlength).symm

/-- A card number with separators, and one of its digits mistyped as a letter. -/
theorem luhn_exact_of_card :
    (checkOn .checked "7992-7398 713" = some (.ok ()) ∧ check "79927398713" = .ok () ∧
      check "007992-7398 713" = .ok ()) ∧
    check "7992-7x98 713" = .error (notDigit "79927x98713" 'x') := by
  have hdigits : withoutSeparators "7992-7398 713".toList = "79927398713".toList := by decide
  have hletter : withoutSeparators "7992-7x98 713".toList = "79927x98713".toList := by decide
  have hall : ∀ c ∈ "79927398713".toList, isAsciiDigit c = true :=
    List.all_eq_true.1 (by decide)
  have hne : "79927398713".toList ≠ [] := by decide
  obtain ⟨hwords, -, -, htotal, hsame, hzeros⟩ := luhn_exact hdigits (by decide)
  obtain ⟨-, -, hlast, -⟩ := luhn_exact hletter (by decide)
  have hok : check "7992-7398 713" = .ok () := by
    rw [htotal hne hall]
    decide
  refine ⟨⟨?_, ?_, ?_⟩, ?_⟩
  · rw [hwords, hok]
  · rw [hsame _ (by decide), hok]
  · exact (hzeros hne hall 2).2 hok
  · exact hlast "79927".toList 'x' "98713".toList (by decide) (by decide)
      (List.all_eq_true.1 (by decide))

end FieldChecks.Luhn
