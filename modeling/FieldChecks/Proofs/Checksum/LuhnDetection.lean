import FieldChecks.Proofs.Checksum.Luhn

/-!
# Luhn numbers — which errors are found

What a digit adds at a position is below ten and different for different
digits (`contribution_inj`), so a digit cannot be replaced without the
total leaving the multiples of ten, and there is one digit that brings it
back. Two digits that change places move by one position each. The
doubling of a digit changes it by the digit itself, or by nine less, so
the totals agree only for nought and nine (`contribution_swap_iff`).
-/

namespace FieldChecks.Luhn

/-- Digits, no more than a word holds the sum of. -/
structure IsNumber (cs : List Char) : Prop where
  digits : ∀ c ∈ cs, isAsciiDigit c = true
  length_le : cs.length ≤ mostDigits

/-- The characters pass the check. -/
def Passes (cs : List Char) : Prop :=
  check (String.ofList cs) = .ok ()

variable {p front back : List Char} {a b c : Char} {i : Nat}

theorem isAsciiDigit_ne_separator (h : isAsciiDigit c = true) : (c != ' ' && c != '-') = true := by
  rw [Bool.and_eq_true, bne_iff_ne, bne_iff_ne]
  constructor <;> rintro rfl <;> cases h

/-- **A number passes** if its total is a multiple of ten. -/
theorem IsNumber.passes_iff (h : IsNumber p) (hne : p ≠ []) : Passes p ↔ 10 ∣ total p := by
  have hd : withoutSeparators (String.ofList p).toList = List.replicate 0 '0' ++ p := by
    rw [String.toList_ofList, withoutSeparators, List.replicate_zero, List.nil_append,
      List.filter_eq_self]
    exact fun c hc => isAsciiDigit_ne_separator (h.digits c hc)
  exact check_eq_ok_iff hd hne h.digits h.length_le

theorem IsNumber.check_eq_ok_iff {text : String} (h : IsNumber text.toList)
    (hne : text.toList ≠ []) : check text = .ok () ↔ 10 ∣ total text.toList := by
  rw [← h.passes_iff hne, Passes, String.ofList_toList]

theorem IsNumber.replace (h : IsNumber (front ++ a :: back)) (hb : isAsciiDigit b = true) :
    IsNumber (front ++ b :: back) := by
  refine ⟨fun c hc => ?_, by simpa using h.length_le⟩
  rcases List.mem_append.1 hc with hfront | hback
  · exact h.digits c (by simp [hfront])
  · rcases List.mem_cons.1 hback with rfl | hback
    · exact hb
    · exact h.digits c (by simp [hback])

theorem IsNumber.swap (h : IsNumber (front ++ a :: b :: back)) :
    IsNumber (front ++ b :: a :: back) := by
  have hperm : (front ++ a :: b :: back).Perm (front ++ b :: a :: back) :=
    .append_left front (.swap b a back)
  refine ⟨fun c hc => h.digits c (hperm.mem_iff.2 hc), ?_⟩
  rw [← hperm.length_eq]
  exact h.length_le

/-! ## Totals of neighbours -/

theorem total_append_singleton (p : List Char) (c : Char) :
    total (p ++ [c]) = decimal c + positionalSum contribution 1 p.reverse := by
  rw [total, List.reverse_append, List.reverse_singleton, List.singleton_append,
    positionalSum_cons, contribution_even rfl]

theorem total_replace (front back : List Char) (a b : Char) :
    total (front ++ a :: back) + contribution back.length b =
      total (front ++ b :: back) + contribution back.length a := by
  have h := positionalSum_replace contribution 0 back.reverse front.reverse a b
  rw [List.length_reverse, Nat.zero_add] at h
  simpa [total] using h

theorem total_swap (front back : List Char) (a b : Char) :
    total (front ++ a :: b :: back) +
        (contribution back.length a + contribution (back.length + 1) b) =
      total (front ++ b :: a :: back) +
        (contribution back.length b + contribution (back.length + 1) a) := by
  have h := positionalSum_swap contribution 0 back.reverse [] front.reverse b a
  rw [List.length_reverse, Nat.zero_add] at h
  simpa [total] using h

/-! ## What digits add -/

/-- **Different digits add different numbers** at a position. -/
theorem contribution_inj (ha : isAsciiDigit a = true) (hb : isAsciiDigit b = true) (i : Nat) :
    contribution i a = contribution i b ↔ a = b := by
  refine ⟨fun h => (decimal_inj ha hb).1 ?_, fun h => congrArg _ h⟩
  have hlta := decimal_lt ha
  have hltb := decimal_lt hb
  rcases Nat.mod_two_eq_zero_or_one i with hi | hi
  · rwa [contribution_even hi, contribution_even hi] at h
  · rw [contribution_odd hi ha, contribution_odd hi hb] at h
    split at h <;> split at h <;> omega

/-- **Two neighbours add as much in either order**, up to multiples of ten, if they are the same
or nought and nine. -/
theorem contribution_swap_iff (ha : isAsciiDigit a = true) (hb : isAsciiDigit b = true)
    (i : Nat) :
    (contribution i a + contribution (i + 1) b) % 10 =
        (contribution i b + contribution (i + 1) a) % 10 ↔
      a = b ∨ (a = '0' ∧ b = '9') ∨ (a = '9' ∧ b = '0') := by
  have hlta := decimal_lt ha
  have hltb := decimal_lt hb
  have hnought : ∀ c, isAsciiDigit c = true → (c = '0' ↔ decimal c = 0) :=
    fun c hc => (decimal_inj (d := '0') hc rfl).symm
  have hnine : ∀ c, isAsciiDigit c = true → (c = '9' ↔ decimal c = 9) :=
    fun c hc => (decimal_inj (d := '9') hc rfl).symm
  rw [hnought a ha, hnought b hb, hnine a ha, hnine b hb, ← decimal_inj ha hb]
  rcases Nat.mod_two_eq_zero_or_one i with hi | hi
  · have hnext : (i + 1) % 2 = 1 := by omega
    rw [contribution_even hi, contribution_even hi, contribution_odd hnext ha,
      contribution_odd hnext hb]
    split <;> split <;> omega
  · have hnext : (i + 1) % 2 = 0 := by omega
    rw [contribution_even hnext, contribution_even hnext, contribution_odd hi ha,
      contribution_odd hi hb]
    split <;> split <;> omega

/-! ## Errors -/

/-- One digit completes a number: what its total needs to be a multiple of ten. -/
theorem existsUnique_check_digit (hp : ∀ c ∈ p, isAsciiDigit c = true)
    (hlength : p.length < mostDigits) : ∃! c, isAsciiDigit c = true ∧ Passes (p ++ [c]) := by
  have hpasses : ∀ c, isAsciiDigit c = true →
      (Passes (p ++ [c]) ↔ (decimal c + positionalSum contribution 1 p.reverse) % 10 = 0) := by
    intro c hc
    have hnumber : IsNumber (p ++ [c]) := by
      refine ⟨fun d hd => ?_, by rw [List.length_append, List.length_singleton]; omega⟩
      rcases List.mem_append.1 hd with hd | hd
      · exact hp d hd
      · exact List.mem_singleton.1 hd ▸ hc
    rw [hnumber.passes_iff (by simp), total_append_singleton, Nat.dvd_iff_mod_eq_zero]
  generalize positionalSum contribution 1 p.reverse = rest at hpasses
  obtain ⟨c, hc, hvalue⟩ := exists_decimal (Nat.mod_lt (10 - rest % 10) (by omega : 0 < 10))
  refine ⟨c, ⟨hc, (hpasses c hc).2 (by omega)⟩, ?_⟩
  rintro d ⟨hd, hpass⟩
  have hzero := (hpasses d hd).1 hpass
  have hlt := decimal_lt hd
  exact (decimal_inj hd hc).1 (by omega)

/-- **A replaced digit is found.** -/
theorem not_passes_replace (h : IsNumber (front ++ a :: back)) (hpass : Passes (front ++ a :: back))
    (hb : isAsciiDigit b = true) (hne : a ≠ b) : ¬ Passes (front ++ b :: back) := by
  intro hother
  have ha : isAsciiDigit a = true := h.digits a (by simp)
  have hdvd := (h.passes_iff (by simp)).1 hpass
  have hdvd' := ((h.replace hb).passes_iff (by simp)).1 hother
  have htotals := total_replace front back a b
  have hlea := contribution_le ha back.length
  have hleb := contribution_le hb back.length
  exact hne ((contribution_inj ha hb back.length).1 (by omega))

/-- **Two neighbours that change places are found** unless they are the same, or nought and
nine. -/
theorem passes_swap_iff (h : IsNumber (front ++ a :: b :: back))
    (hpass : Passes (front ++ a :: b :: back)) :
    Passes (front ++ b :: a :: back) ↔
      a = b ∨ (a = '0' ∧ b = '9') ∨ (a = '9' ∧ b = '0') := by
  have ha : isAsciiDigit a = true := h.digits a (by simp)
  have hb : isAsciiDigit b = true := h.digits b (by simp)
  have hdvd := (h.passes_iff (by simp)).1 hpass
  have htotals := total_swap front back a b
  rw [h.swap.passes_iff (by simp), ← contribution_swap_iff ha hb back.length]
  omega

/-- **The Luhn check finds the common errors.** Every payload is completed by exactly one digit. In
a number that passes, no digit can be replaced by another one, and the only different neighbours
that can change places are nought and nine. -/
theorem luhn_detects_errors :
    (∀ p : List Char, (∀ c ∈ p, isAsciiDigit c = true) → p.length < mostDigits →
      ∃! c, isAsciiDigit c = true ∧ Passes (p ++ [c])) ∧
    (∀ (front back : List Char) (a b : Char), IsNumber (front ++ a :: back) →
      Passes (front ++ a :: back) → isAsciiDigit b = true → a ≠ b →
      ¬ Passes (front ++ b :: back)) ∧
    (∀ (front back : List Char) (a b : Char), IsNumber (front ++ a :: b :: back) →
      Passes (front ++ a :: b :: back) → a ≠ b →
      (Passes (front ++ b :: a :: back) ↔ (a = '0' ∧ b = '9') ∨ (a = '9' ∧ b = '0'))) := by
  refine ⟨fun p hp hlength => existsUnique_check_digit hp hlength,
    fun front back a b h hpass hb hne => not_passes_replace h hpass hb hne, ?_⟩
  intro front back a b h hpass hne
  rw [passes_swap_iff h hpass]
  simp [hne]

/-- In `1099` the last digit is the only one that fits, and the two in the middle can change
places. -/
theorem luhn_detects_errors_of_nines :
    (∃! c, isAsciiDigit c = true ∧ Passes (['1', '0', '9'] ++ [c])) ∧
      (IsNumber ['1', '0', '9', '9'] ∧ Passes ['1', '0', '9', '9']) ∧
      ¬ Passes ['1', '0', '9', '8'] ∧ Passes ['1', '9', '0', '9'] := by
  have hnumber : IsNumber ['1', '0', '9', '9'] := ⟨List.all_eq_true.1 (by decide), by decide⟩
  have hpass : Passes ['1', '0', '9', '9'] :=
    (hnumber.passes_iff (List.cons_ne_nil _ _)).2 (by decide)
  obtain ⟨hcheck, hreplace, hswap⟩ := luhn_detects_errors
  refine ⟨hcheck ['1', '0', '9'] (List.all_eq_true.1 (by decide)) (by decide), ⟨hnumber, hpass⟩, ?_, ?_⟩
  · exact hreplace ['1', '0', '9'] [] '9' '8' hnumber hpass rfl (by decide)
  · exact (hswap ['1'] ['9'] '0' '9' hnumber hpass (by decide)).2 (.inl ⟨rfl, rfl⟩)

end FieldChecks.Luhn
