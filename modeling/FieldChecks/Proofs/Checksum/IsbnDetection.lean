import FieldChecks.Proofs.Checksum.Isbn
import Mathlib.Data.Nat.ModEq
import Mathlib.Data.Nat.Prime.Basic

/-!
# ISBNs — which errors are found

The bytes of what passes are ASCII, so it is the characters that have one
of the two forms (`passes10_iff`, `passes13_iff`). The weights of ten
positions are different and below eleven, which is prime: a value counts
differently at every position, and two different values that change places
change the sum by the product of two numbers below eleven
(`value_eq_of_modEq`). One and three have no factor in common with ten, so
among thirteen digits a replaced one is found. Neighbours that change
places change the sum by twice their difference, which is a multiple of
ten also for digits that differ by five (`valid13_swap_iff`).
-/

namespace FieldChecks.Isbn

variable {cs front middle back : List Char} {a b c : Char} {i k v w : Nat}

/-! ## Characters -/

/-- The characters pass the check of ten. -/
def Passes10 (cs : List Char) : Prop :=
  check10 (String.ofList cs) = .ok ()

/-- The characters pass the check of thirteen. -/
def Passes13 (cs : List Char) : Prop :=
  check13 (String.ofList cs) = .ok ()

theorem isAscii_of_isAsciiDigit (h : isAsciiDigit c = true) : c.toNat < 128 := by
  obtain ⟨-, hle⟩ := isAsciiDigit_iff.1 h
  have hnine : '9'.toNat = 57 := rfl
  omega

theorem isAscii_of_value? (h : (value? c).isSome) : c.toNat < 128 := by
  rw [value?] at h
  split at h
  · rename_i hX
    rcases hX with rfl | rfl <;> decide
  · split at h
    · rename_i hdigit
      exact isAscii_of_isAsciiDigit hdigit
    · cases h

/-- Every character of a number has a value. -/
theorem Valid10.value?_isSome (h : Valid10 cs) : ∀ c ∈ cs, (value? c).isSome := by
  intro c hc
  rw [← List.take_append_drop 9 cs, List.mem_append] at hc
  rcases hc with hc | hc
  · rw [value?_of_digit (h.digits c hc)]
    rfl
  · exact h.last c hc

theorem Valid10.isAscii (h : Valid10 cs) : ∀ c ∈ cs, c.toNat < 128 :=
  fun c hc => isAscii_of_value? (h.value?_isSome c hc)

theorem Valid13.isAscii (h : Valid13 cs) : ∀ c ∈ cs, c.toNat < 128 :=
  fun c hc => isAscii_of_isAsciiDigit (h.digits c hc)

theorem readChars_of_ascii {text : String} (h : ∀ c ∈ text.toList, c.toNat < 128) :
    readChars text = text.toList :=
  map_byteChar h

/-- What is read as ASCII characters is ASCII. -/
theorem readChars_eq {text : String} (h : ∀ c ∈ readChars text, c.toNat < 128) :
    readChars text = text.toList := by
  apply readChars_of_ascii
  apply ascii_of_bytes
  intro b hb
  have hlt := h (byteChar b) (List.mem_map_of_mem hb)
  rwa [toNat_byteChar] at hlt

/-- A form of ASCII characters is one of the bytes if it is one of the text. -/
theorem form_readChars_iff {form : List Char → Prop}
    (hascii : ∀ {cs}, form cs → ∀ c ∈ cs, c.toNat < 128) (text : String) :
    form (readChars text) ↔ form text.toList := by
  constructor
  · intro h
    rwa [← readChars_eq (hascii h)]
  · intro h
    rwa [readChars_of_ascii (hascii h)]

/-- **Ten characters pass** if they have the form themselves. -/
theorem passes10_iff (cs : List Char) : Passes10 cs ↔ Valid10 cs := by
  rw [Passes10, check10_eq_ok_iff, form_readChars_iff Valid10.isAscii, String.toList_ofList]

/-- **Thirteen digits pass** if they have the form themselves. -/
theorem passes13_iff (cs : List Char) : Passes13 cs ↔ Valid13 cs := by
  rw [Passes13, check13_eq_ok_iff, form_readChars_iff Valid13.isAscii, String.toList_ofList]

/-! ## Ten characters -/

/-- Values are told apart modulo eleven, also by a multiple of theirs. -/
theorem value_eq_of_modEq (hv : v ≤ 10) (hw : w ≤ 10) (hpos : k ≠ 0) (hk : k < 11)
    (h : v * k ≡ w * k [MOD 11]) : v = w := by
  have hcoprime : Nat.Coprime 11 k := Nat.coprime_of_lt_prime hpos hk Nat.prime_eleven
  have hmod : v ≡ w [MOD 11] := h.cancel_right_of_coprime hcoprime
  exact hmod.eq_of_lt_of_lt (by omega) (by omega)

/-- **Numbers that differ in one character** differ in no value. -/
theorem value?_eq_of_replace (ha : Valid10 (front ++ a :: back))
    (hb : Valid10 (front ++ b :: back)) : value? a = value? b := by
  obtain ⟨v, hv⟩ := Option.isSome_iff_exists.1 (ha.value?_isSome a (by simp))
  obtain ⟨w, hw⟩ := Option.isSome_iff_exists.1 (hb.value?_isSome b (by simp))
  have hlength : front.length < 10 := by
    have hten := ha.length_eq
    rw [List.length_append, List.length_cons] at hten
    omega
  have hsums := positionalSum_replace share10 0 front back a b
  have hmod : v * (10 - front.length) ≡ w * (10 - front.length) [MOD 11] := by
    rw [Nat.zero_add, share10_of_value? hv, share10_of_value? hw] at hsums
    have hdvd := ha.sum
    have hdvd' := hb.sum
    unfold Nat.ModEq
    omega
  rw [hv, hw, value_eq_of_modEq (value?_le hv) (value?_le hw) (by omega) (by omega) hmod]

/-- **Numbers in which two characters have changed places** have the same value at both. -/
theorem value?_eq_of_swap (h : Valid10 (front ++ a :: (middle ++ b :: back)))
    (hswap : Valid10 (front ++ b :: (middle ++ a :: back))) : value? a = value? b := by
  obtain ⟨v, hv⟩ := Option.isSome_iff_exists.1 (h.value?_isSome a (by simp))
  obtain ⟨w, hw⟩ := Option.isSome_iff_exists.1 (h.value?_isSome b (by simp))
  obtain ⟨rest, hrest⟩ : ∃ rest, 10 = front.length + (middle.length + 1) + (rest + 1) := by
    have hten := h.length_eq
    simp only [List.length_append, List.length_cons] at hten
    exact ⟨back.length, by omega⟩
  have hsums := positionalSum_swap share10 0 front middle back a b
  have hweight : 10 - front.length = (rest + 1) + (middle.length + 1) := by omega
  have hweight' : 10 - (front.length + 1 + middle.length) = rest + 1 := by omega
  -- what the later weight makes of both is on both sides
  have hmod : v * (middle.length + 1) ≡ w * (middle.length + 1) [MOD 11] := by
    simp only [Nat.zero_add, share10_of_value? hv, share10_of_value? hw, hweight, hweight',
      Nat.mul_add v (rest + 1), Nat.mul_add w (rest + 1)] at hsums
    have hdvd := h.sum
    have hdvd' := hswap.sum
    unfold Nat.ModEq
    omega
  rw [hv, hw, value_eq_of_modEq (value?_le hv) (value?_le hw) (by omega) (by omega) hmod]

/-! ## Thirteen digits -/

/-- **Numbers that differ in one digit** do not differ. -/
theorem eq_of_replace (ha : Valid13 (front ++ a :: back)) (hb : Valid13 (front ++ b :: back)) :
    a = b := by
  have hdigita : isAsciiDigit a = true := ha.digits a (by simp)
  have hdigitb : isAsciiDigit b = true := hb.digits b (by simp)
  have hlta := decimal_lt hdigita
  have hltb := decimal_lt hdigitb
  have hsums := positionalSum_replace share13 0 front back a b
  have hdvd := ha.sum
  have hdvd' := hb.sum
  apply (decimal_inj hdigita hdigitb).1
  rw [Nat.zero_add, share13, share13, weightIn13] at hsums
  split at hsums <;> omega

/-- **Two neighbours count as much in either order** if twice their difference is a multiple
of ten. -/
theorem valid13_swap_iff (h : Valid13 (front ++ a :: b :: back)) :
    Valid13 (front ++ b :: a :: back) ↔
      decimal a = decimal b ∨ decimal a = decimal b + 5 ∨ decimal b = decimal a + 5 := by
  have hlta := decimal_lt (h.digits a (by simp))
  have hltb := decimal_lt (h.digits b (by simp))
  have hperm : (front ++ a :: b :: back).Perm (front ++ b :: a :: back) :=
    .append_left front (.swap b a back)
  have hform : Valid13 (front ++ b :: a :: back) ↔
      10 ∣ positionalSum share13 0 (front ++ b :: a :: back) := by
    refine ⟨Valid13.sum, fun hsum => ⟨?_, ?_, hsum⟩⟩
    · rw [← hperm.length_eq, h.length_eq]
    · exact fun c hc => h.digits c (hperm.mem_iff.2 hc)
  have hsums := positionalSum_swap share13 0 front [] back a b
  have hdvd := h.sum
  rw [hform]
  simp only [List.nil_append, List.length_nil, Nat.zero_add, Nat.add_zero, share13,
    weightIn13] at hsums
  rcases Nat.mod_two_eq_zero_or_one front.length with heven | hodd
  · have hnext : (front.length + 1) % 2 = 1 := by omega
    simp only [heven, hnext, if_true, Nat.one_ne_zero, if_false] at hsums
    omega
  · have hnext : (front.length + 1) % 2 = 0 := by omega
    simp only [hodd, hnext, if_true, Nat.one_ne_zero, if_false] at hsums
    omega

/-! ## Errors -/

/-- **The ISBN checks find the common errors.** In a number of ten characters that passes, no
character can be replaced by one of another value, and no two of different values can change
places. In one of thirteen digits, no digit can be replaced by another character, and neighbours
can change places if they differ by nothing or by five. -/
theorem isbn_detects_errors :
    (∀ (front back : List Char) (a b : Char), Passes10 (front ++ a :: back) →
      value? a ≠ value? b → ¬ Passes10 (front ++ b :: back)) ∧
    (∀ (front middle back : List Char) (a b : Char),
      Passes10 (front ++ a :: (middle ++ b :: back)) → value? a ≠ value? b →
      ¬ Passes10 (front ++ b :: (middle ++ a :: back))) ∧
    (∀ (front back : List Char) (a b : Char), Passes13 (front ++ a :: back) → a ≠ b →
      ¬ Passes13 (front ++ b :: back)) ∧
    (∀ (front back : List Char) (a b : Char), Passes13 (front ++ a :: b :: back) →
      (Passes13 (front ++ b :: a :: back) ↔
        decimal a = decimal b ∨ decimal a = decimal b + 5 ∨ decimal b = decimal a + 5)) := by
  simp only [passes10_iff, passes13_iff]
  refine ⟨?_, ?_, ?_, fun _ _ _ _ => valid13_swap_iff⟩
  · intro front back a b ha hne hb
    exact hne (value?_eq_of_replace ha hb)
  · intro front middle back a b h hne hswap
    exact hne (value?_eq_of_swap h hswap)
  · intro front back a b ha hne hb
    exact hne (eq_of_replace ha hb)

/-- A book number with an `X`, whose last character is replaced or goes to the front, and one of
thirteen digits, in which a six and a one next to it can change places. -/
theorem isbn_detects_errors_of_books :
    Passes10 "080442957X".toList ∧ ¬ Passes10 "0804429579".toList ∧
      ¬ Passes10 "X804429570".toList ∧
      Passes13 "9783161484100".toList ∧ ¬ Passes13 "9783161484101".toList ∧
      Passes13 "9783611484100".toList := by
  have h10 : Passes10 "080442957X".toList :=
    (passes10_iff _).2
      ⟨rfl, List.all_eq_true.1 (by decide), List.all_eq_true.1 (by decide), by decide⟩
  have h13 : Passes13 "9783161484100".toList :=
    (passes13_iff _).2 ⟨rfl, List.all_eq_true.1 (by decide), by decide⟩
  obtain ⟨hreplace, hswap, hreplace13, hswap13⟩ := isbn_detects_errors
  refine ⟨h10, ?_, ?_, h13, ?_, ?_⟩
  · exact hreplace "080442957".toList [] 'X' '9' h10 (by decide)
  · exact hswap [] "80442957".toList [] '0' 'X' h10 (by decide)
  · exact hreplace13 "978316148410".toList [] '0' '1' h13 (by decide)
  · exact (hswap13 "9783".toList "1484100".toList '1' '6' h13).2 (.inr (.inr rfl))

end FieldChecks.Isbn
