import FieldChecks.Json.StringLiteral
import FieldChecks.Proofs.Text.Digits

/-!
# Strings in JSON — how a text may be spelled

A text has many spellings as a JSON string: any character but the quote,
the backslash and the controls may stand for itself, and any character may
be escaped. This file says which characters spell a text between two
quotes (`Spells`), that reading understands every spelling
(`read_of_spells`), and that writing produces one (`spells_escape`).
-/

namespace FieldChecks.Json.StringLiteral

/-- Four hexadecimal digits, and the code unit that they name. -/
structure IsCodeUnit (digits : List Char) (unit : Nat) : Prop where
  length_eq : digits.length = 4
  value_eq : digitsValue? 16 digits = some unit

/-- **A text is spelled by the characters between two quotes.** -/
inductive Spells : List Char → List Char → Prop
  | nil : Spells [] []
  /-- A character that stands for itself. -/
  | plain {c : Char} {cs text : List Char} (hquote : c ≠ '"') (hslash : c ≠ '\\')
      (hcontrol : ¬ c < ' ') (h : Spells cs text) : Spells (c :: cs) (c :: text)
  /-- A character that has an escape of one letter. -/
  | letter {e c : Char} {cs text : List Char} (he : unescape? e = some c) (h : Spells cs text) :
      Spells ('\\' :: e :: cs) (c :: text)
  /-- A character by its code unit. -/
  | codeUnit {digits cs text : List Char} {unit : Nat} (hunit : IsCodeUnit digits unit)
      (hleading : isLeading unit = false) (htrailing : isTrailing unit = false)
      (h : Spells cs text) : Spells ('\\' :: 'u' :: (digits ++ cs)) (Char.ofNat unit :: text)
  /-- A character by the two code units of a pair. -/
  | pair {digits more cs text : List Char} {leading trailing : Nat}
      (hleading : IsCodeUnit digits leading) (htrailing : IsCodeUnit more trailing)
      (hfirst : isLeading leading = true) (hsecond : isTrailing trailing = true)
      (h : Spells cs text) :
      Spells ('\\' :: 'u' :: (digits ++ '\\' :: 'u' :: (more ++ cs)))
        (pairChar leading trailing :: text)

variable {cs text : List Char}

/-! ## Reading -/

theorem IsCodeUnit.exists_digits {digits : List Char} {unit : Nat} (h : IsCodeUnit digits unit) :
    ∃ a b c d, digits = [a, b, c, d] ∧ digitsValue? 16 [a, b, c, d] = some unit := by
  obtain ⟨hlength, hvalue⟩ := h
  match digits, hlength with
  | [a, b, c, d], _ => exact ⟨a, b, c, d, rfl, hvalue⟩

/-- No letter with an escape of its own begins a code unit. -/
theorem ne_u_of_unescape? {e c : Char} (h : unescape? e = some c) : e ≠ 'u' := by
  rintro rfl
  cases h

/-- A code unit is not both halves of a pair. -/
theorem isTrailing_of_isLeading {unit : Nat} (h : isLeading unit = true) :
    isTrailing unit = false := by
  simp only [isLeading, isTrailing, Bool.and_eq_true, decide_eq_true_eq] at h ⊢
  simp only [Bool.and_eq_false_iff, decide_eq_false_iff_not]
  omega

/-- **Every spelling is read** as the text that it spells, up to its closing quote. -/
theorem read_of_spells (h : Spells cs text) (rest : List Char) :
    read (cs ++ '"' :: rest) = .ok (text, rest) := by
  induction h with
  | nil =>
    rw [List.nil_append, read.eq_def]
    simp
  | plain hquote hslash hcontrol _ ih =>
    rw [List.cons_append, read.eq_def]
    simp [hquote, hslash, hcontrol, ih, prepend]
  | letter he _ ih =>
    have hu := ne_u_of_unescape? he
    rw [List.cons_append, List.cons_append, read.eq_def]
    simp [hu, he, ih, prepend]
  | codeUnit hunit hleading htrailing _ ih =>
    obtain ⟨a, b, c, d, rfl, hvalue⟩ := hunit.exists_digits
    rw [List.cons_append, read.eq_def]
    simp [hvalue, hleading, htrailing, ih, prepend]
  | pair hleading htrailing hfirst hsecond _ ih =>
    obtain ⟨a, b, c, d, rfl, hvalue⟩ := hleading.exists_digits
    obtain ⟨a', b', c', d', rfl, hvalue'⟩ := htrailing.exists_digits
    have hnot := isTrailing_of_isLeading hfirst
    rw [List.cons_append, read.eq_def]
    simp [hvalue, hvalue', hfirst, hsecond, hnot, ih, prepend]

/-! ## Writing -/

/-- A control character is written as its code unit. -/
theorem isCodeUnit_control {c : Char} (h : c < ' ') :
    ∃ digits, codeUnitEscape c = '\\' :: 'u' :: digits ∧ IsCodeUnit digits c.toNat := by
  have hfour : ∀ n < 32, (hexDigits n).length ≤ 4 ∧
      digitsValue? 16 (List.replicate (4 - (hexDigits n).length) '0' ++ hexDigits n) = some n := by
    decide +kernel
  obtain ⟨hlength, hvalue⟩ := hfour c.toNat h
  refine ⟨List.replicate (4 - (hexDigits c.toNat).length) '0' ++ hexDigits c.toNat, rfl, ?_, hvalue⟩
  rw [List.length_append, List.length_replicate]
  omega

/-- The characters that are written with a letter behind a backslash. -/
def lettered : List Char :=
  ['"', '\\', '\x08', '\x0c', '\n', '\r', '\t']

theorem escape_of_mem_lettered {c : Char} (h : c ∈ lettered) :
    ∃ e, escape c = ['\\', e] ∧ unescape? e = some c := by
  simp only [lettered, List.mem_cons, List.not_mem_nil, or_false] at h
  rcases h with rfl | rfl | rfl | rfl | rfl | rfl | rfl <;> exact ⟨_, rfl, rfl⟩

theorem escape_of_not_mem_lettered {c : Char} (h : c ∉ lettered) :
    escape c = if c < ' ' then codeUnitEscape c else [c] := by
  simp only [lettered, List.mem_cons, List.not_mem_nil, or_false, not_or] at h
  simp [escape, h]

/-- Whatever is written for a character spells it. -/
theorem Spells.escape (c : Char) (h : Spells cs text) :
    Spells (StringLiteral.escape c ++ cs) (c :: text) := by
  by_cases hlettered : c ∈ lettered
  · obtain ⟨e, hescape, he⟩ := escape_of_mem_lettered hlettered
    rw [hescape]
    exact .letter he h
  rw [escape_of_not_mem_lettered hlettered]
  by_cases hcontrol : c < ' '
  · obtain ⟨digits, hdigits, hunit⟩ := isCodeUnit_control hcontrol
    have hlow : c.toNat < 32 := hcontrol
    have hleading : isLeading c.toNat = false := by
      simp only [isLeading, Bool.and_eq_false_iff, decide_eq_false_iff_not]
      omega
    have htrailing : isTrailing c.toNat = false := by
      simp only [isTrailing, Bool.and_eq_false_iff, decide_eq_false_iff_not]
      omega
    have hspells := Spells.codeUnit hunit hleading htrailing h
    rw [Char.ofNat_toNat] at hspells
    rw [if_pos hcontrol, hdigits]
    exact hspells
  · have hquote : c ≠ '"' := fun hc => hlettered (hc ▸ by decide)
    have hslash : c ≠ '\\' := fun hc => hlettered (hc ▸ by decide)
    rw [if_neg hcontrol]
    exact .plain hquote hslash hcontrol h

/-- **A text is written as a spelling of it.** -/
theorem spells_escape (text : List Char) : Spells (text.flatMap StringLiteral.escape) text := by
  induction text with
  | nil => exact .nil
  | cons c text ih =>
    rw [List.flatMap_cons]
    exact ih.escape c

end FieldChecks.Json.StringLiteral
