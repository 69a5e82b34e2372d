import FieldChecks.Checksum.Npi
import FieldChecks.Proofs.Checksum.LuhnDetection
import FieldChecks.Proofs.Result

/-!
# Provider identifiers — a Luhn number behind a prefix

The sum goes from right to left, so a prefix leaves the positions of what
follows it as they are and takes the ones behind them
(`total_append`). Behind ten digits the prefix of the health industry is
worth twenty-four (`total_industry`), and the whole is a multiple of ten
exactly if the ten digits alone leave six (`check_eq_ok_iff`). So an
identifier is never a Luhn number itself, and inherits what the Luhn check
finds.
-/

namespace FieldChecks

namespace Luhn

/-- **A prefix takes the positions behind what it stands in front of.** -/
theorem total_append (front back : List Char) :
    total (front ++ back) =
      total back + positionalSum contribution back.length front.reverse := by
  rw [total, List.reverse_append, positionalSum_append, List.length_reverse, Nat.zero_add, total]

end Luhn

namespace Npi

open Luhn (total contribution IsNumber)

/-- **An identifier**: ten digits whose total leaves six. -/
structure Valid (cs : List Char) : Prop where
  length_eq : cs.length = 10
  digits : ∀ c ∈ cs, isAsciiDigit c = true
  total_mod : total cs % 10 = 6

/-- The characters pass the check. -/
def Passes (cs : List Char) : Prop :=
  check (String.ofList cs) = .ok ()

variable {text : String} {cs p front back : List Char} {a b c : Char}

/-! ## Behind the prefix -/

/-- **The prefix is worth twenty-four** in front of ten digits. -/
theorem total_industry (h : cs.length = 10) : total (industry.toList ++ cs) = total cs + 24 := by
  have hprefix : positionalSum contribution 10 industry.toList.reverse = 24 := by decide
  rw [Luhn.total_append, h, hprefix]

theorem isNumber_industry (hlength : cs.length = 10)
    (hdigits : ∀ c ∈ cs, isAsciiDigit c = true) : IsNumber (industry.toList ++ cs) := by
  refine ⟨fun c hc => ?_, ?_⟩
  · rcases List.mem_append.1 hc with hc | hc
    · exact List.all_eq_true.1 (by decide : industry.toList.all isAsciiDigit = true) c hc
    · exact hdigits c hc
  · have hmost : Luhn.mostDigits = 477218588 := rfl
    have hprefix : industry.toList.length = 5 := rfl
    rw [List.length_append]
    omega

/-- Ten digits pass the Luhn check behind the prefix if their own total leaves six. -/
theorem luhn_industry_iff (hlength : text.toList.length = 10)
    (hdigits : ∀ c ∈ text.toList, isAsciiDigit c = true) :
    Luhn.check (industry ++ text) = .ok () ↔ total text.toList % 10 = 6 := by
  have hchars : (industry ++ text).toList = industry.toList ++ text.toList :=
    String.toList_append
  have hnumber := isNumber_industry hlength hdigits
  rw [← hchars] at hnumber
  rw [hnumber.check_eq_ok_iff (by simp [industry]), hchars, total_industry hlength]
  omega

/-! ## What passes -/

/-- **What passes** are ten digits that the Luhn check accepts behind the prefix. -/
theorem check_eq_ok_iff_luhn (text : String) :
    check text = .ok () ↔
      text.toList.length = 10 ∧ (∀ c ∈ text.toList, isAsciiDigit c = true) ∧
        Luhn.check (industry ++ text) = .ok () := by
  rw [check, ite_ok_iff, isValid, Bool.and_eq_true, Bool.and_eq_true, beq_iff_eq,
    List.all_eq_true, isOk_iff, and_assoc]

/-- **What passes, by its own total.** -/
theorem check_eq_ok_iff (text : String) : check text = .ok () ↔ Valid text.toList := by
  rw [check_eq_ok_iff_luhn]
  constructor
  · rintro ⟨hlength, hdigits, hluhn⟩
    exact ⟨hlength, hdigits, (luhn_industry_iff hlength hdigits).1 hluhn⟩
  · rintro ⟨hlength, hdigits, htotal⟩
    exact ⟨hlength, hdigits, (luhn_industry_iff hlength hdigits).2 htotal⟩

theorem passes_iff (cs : List Char) : Passes cs ↔ Valid cs := by
  rw [Passes, check_eq_ok_iff, String.toList_ofList]

theorem passes_iff_luhn (hlength : cs.length = 10) (hdigits : ∀ c ∈ cs, isAsciiDigit c = true) :
    Passes cs ↔ Luhn.Passes (industry.toList ++ cs) := by
  rw [Passes, check_eq_ok_iff_luhn, String.toList_ofList, Luhn.Passes, String.ofList_append,
    String.ofList_toList]
  simp only [hlength, true_and, and_iff_right hdigits]

/-- An identifier is no Luhn number: its total leaves six and not nought. -/
theorem luhn_ne_ok (h : check text = .ok ()) : Luhn.check text ≠ .ok () := by
  intro hluhn
  have hvalid := (check_eq_ok_iff text).1 h
  have hlength := hvalid.length_eq
  have hnumber : IsNumber text.toList :=
    ⟨hvalid.digits, by rw [hlength]; decide⟩
  have hdvd := (hnumber.check_eq_ok_iff (List.ne_nil_of_length_pos (by omega))).1 hluhn
  have hmod := hvalid.total_mod
  omega

/-! ## Errors -/

/-- **One character completes nine digits**, and it is a digit. -/
theorem exists_completing_digit (hlength : p.length = 9)
    (hdigits : ∀ c ∈ p, isAsciiDigit c = true) :
    ∃ c, isAsciiDigit c = true ∧ ∀ b, Passes (p ++ [b]) ↔ b = c := by
  -- behind the prefix the nine digits are a payload of the Luhn check
  have hnumber := Luhn.existsUnique_check_digit (p := industry.toList ++ p) ?digits ?length
  case digits =>
    rw [List.forall_mem_append]
    exact ⟨List.all_eq_true.1 (by decide), hdigits⟩
  case length =>
    have hmost : Luhn.mostDigits = 477218588 := rfl
    have hprefix : industry.toList.length = 5 := rfl
    rw [List.length_append]
    omega
  have hten : ∀ b, (p ++ [b]).length = 10 := fun b => by simp [hlength]
  have hall : ∀ b, isAsciiDigit b = true → ∀ d ∈ p ++ [b], isAsciiDigit d = true := by
    intro b hb
    rw [List.forall_mem_append, List.forall_mem_singleton]
    exact ⟨hdigits, hb⟩
  have hluhn : ∀ b, isAsciiDigit b = true →
      (Passes (p ++ [b]) ↔ Luhn.Passes (industry.toList ++ p ++ [b])) := by
    intro b hb
    rw [passes_iff_luhn (hten b) (hall b hb), List.append_assoc]
  obtain ⟨c, ⟨hc, hpass⟩, honly⟩ := hnumber
  refine ⟨c, hc, fun b => ⟨fun hb => ?_, ?_⟩⟩
  · have hdigit : isAsciiDigit b = true := ((passes_iff _).1 hb).digits b (by simp)
    exact honly b ⟨hdigit, (hluhn b hdigit).1 hb⟩
  · rintro rfl
    exact (hluhn b hc).2 hpass

/-- **A replaced digit is found**, whatever it is replaced by. -/
theorem not_passes_replace (hpass : Passes (front ++ a :: back)) (hne : a ≠ b) :
    ¬ Passes (front ++ b :: back) := by
  intro hother
  have hvalid := (passes_iff _).1 hpass
  have hvalid' := (passes_iff _).1 hother
  have hluhn := (passes_iff_luhn hvalid.length_eq hvalid.digits).1 hpass
  have hluhn' := (passes_iff_luhn hvalid'.length_eq hvalid'.digits).1 hother
  have hnumber := isNumber_industry hvalid.length_eq hvalid.digits
  rw [← List.append_assoc] at hluhn hluhn' hnumber
  exact Luhn.not_passes_replace hnumber hluhn (hvalid'.digits b (by simp)) hne hluhn'

/-- **The check of provider identifiers is a Luhn check behind a prefix.** A text passes if it is
ten digits that the Luhn check accepts behind the prefix, and that is so if their own total leaves
six. So nine digits are completed by exactly one character, no character of an identifier can be
replaced by another one, and no identifier passes the Luhn check itself. -/
theorem npi_exact :
    (∀ text : String, check text = .ok () ↔
      text.toList.length = 10 ∧ (∀ c ∈ text.toList, isAsciiDigit c = true) ∧
        Luhn.check (industry ++ text) = .ok ()) ∧
    (∀ text : String, check text = .ok () ↔
      text.toList.length = 10 ∧ (∀ c ∈ text.toList, isAsciiDigit c = true) ∧
        total text.toList % 10 = 6) ∧
    (∀ p : List Char, p.length = 9 → (∀ c ∈ p, isAsciiDigit c = true) →
      ∃ c, isAsciiDigit c = true ∧ ∀ b, Passes (p ++ [b]) ↔ b = c) ∧
    (∀ (front back : List Char) (a b : Char), Passes (front ++ a :: back) → a ≠ b →
      ¬ Passes (front ++ b :: back)) ∧
    (∀ text : String, check text = .ok () → Luhn.check text ≠ .ok ()) := by
  refine ⟨check_eq_ok_iff_luhn, fun text => ?_, fun p => exists_completing_digit,
    fun front back a b => not_passes_replace, fun text => luhn_ne_ok⟩
  rw [check_eq_ok_iff]
  exact ⟨fun h => ⟨h.length_eq, h.digits, h.total_mod⟩, fun ⟨hl, hd, ht⟩ => ⟨hl, hd, ht⟩⟩

/-- An identifier, the digit that completes it, and what a mistyped digit does to it. -/
theorem npi_exact_of_provider :
    (check "1234567893" = .ok () ∧ Luhn.check "1234567893" ≠ .ok ()) ∧
      (∃ c, isAsciiDigit c = true ∧ ∀ b, Passes ("123456789".toList ++ [b]) ↔ b = c) ∧
      ¬ Passes "1234567890".toList := by
  obtain ⟨-, htotal, hcomplete, hreplace, hluhn⟩ := npi_exact
  have hpass : check "1234567893" = .ok () :=
    (htotal "1234567893").2 ⟨rfl, List.all_eq_true.1 (by decide), by decide⟩
  refine ⟨⟨hpass, hluhn _ hpass⟩, ?_, ?_⟩
  · exact hcomplete _ rfl (List.all_eq_true.1 (by decide))
  · have hchars : Passes "1234567893".toList := by rwa [Passes, String.ofList_toList]
    exact hreplace "123456789".toList [] '3' '0' hchars (by decide)

end Npi

end FieldChecks
