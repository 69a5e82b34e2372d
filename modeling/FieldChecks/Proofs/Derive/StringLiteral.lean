import FieldChecks.Derive.Source
import FieldChecks.Derive.Token
import FieldChecks.Proofs.Text.Digits

/-!
# String literals in source text — an escaped text is read back

A string literal ends at the first quote that no backslash stands in front
of, and means what its escapes stand for (`readLiteral`). What is written
for a character is either the character, or a backslash and what that
character goes by (`Escapes`); neither hides the closing quote, nor runs
into what follows. So any text is read back from its literal
(`readLiteral_chars`), a NUL in front of a digit, too.
-/

namespace FieldChecks.Derive

/-! ## What is written for a character -/

/-- **The ways to write a character** in a literal. -/
inductive Escapes : List Char → Char → Prop
  | plain {c : Char} (hquote : c ≠ '"') (hslash : c ≠ '\\') : Escapes [c] c
  | letter {e c : Char} (h : letterEscape? e = some c) : Escapes ['\\', e] c
  | nul : Escapes ['\\', 'x', '0', '0'] '\x00'
  | codePoint (c : Char) : Escapes (Quoted.byCodePoint c) c

theorem escapes_escape (c : Char) : Escapes (Quoted.escape '"' c) c := by
  unfold Quoted.escape
  split_ifs with hnul htab hreturn hline hslash hmark
  · exact .letter (by simp_all [letterEscape?])
  · exact .letter (by simp_all [letterEscape?])
  · exact .letter (by simp_all [letterEscape?])
  · exact .letter (by simp_all [letterEscape?])
  · rcases (by simpa using hslash : c = '\\' ∨ c = '"') with rfl | rfl <;> exact .letter rfl
  · exact .codePoint c
  · simp only [Bool.or_eq_true, beq_iff_eq, not_or] at hslash
    exact .plain hslash.2 hslash.1

/-- Characters are escaped one by one, whatever follows them. -/
theorem escaped_cons (c : Char) (cs : List Char) :
    ∃ e, Escapes e c ∧ Token.escaped (c :: cs) = e ++ Token.escaped cs := by
  rw [Token.escaped]
  split_ifs with hnul
  · obtain rfl : c = '\x00' := by simpa using (Bool.and_eq_true_iff.1 hnul).1
    exact ⟨_, .nul, rfl⟩
  · exact ⟨_, escapes_escape c, rfl⟩

/-! ## Reading it back -/

variable {e cs rest : List Char} {c : Char}

theorem ne_of_mem_hexDigits {n : Nat} {d : Char} (h : c ∈ hexDigits n)
    (hd : isHexDigit d = false) : c ≠ d := by
  rintro rfl
  simp [isHexDigit_of_mem_hexDigits h] at hd

/-- Characters that are neither quotes nor backslashes do not end a literal. -/
theorem cutLiteral?_append (h : ∀ c ∈ cs, c ≠ '"' ∧ c ≠ '\\') :
    cutLiteral? (cs ++ rest) = (cutLiteral? rest).map fun cut => (cs ++ cut.1, cut.2) := by
  induction cs with
  | nil => simp
  | cons c cs ih =>
    obtain ⟨hquote, hslash⟩ := h c List.mem_cons_self
    rw [List.cons_append, cutLiteral?.eq_def]
    simp [hslash, ih fun d hd => h d (List.mem_cons_of_mem c hd), Function.comp_def]

/-- What is written for a character does not end a literal. -/
theorem Escapes.cutLiteral? (h : Escapes e c) :
    Derive.cutLiteral? (e ++ rest) =
      (Derive.cutLiteral? rest).map fun cut => (e ++ cut.1, cut.2) := by
  -- The character behind a backslash is passed over unseen; only those behind it count.
  have hslash : ∀ d cs, (∀ c ∈ cs, c ≠ '"' ∧ c ≠ '\\') →
      Derive.cutLiteral? ('\\' :: d :: (cs ++ rest)) =
        (Derive.cutLiteral? rest).map fun cut => ('\\' :: d :: (cs ++ cut.1), cut.2) := by
    intro d cs hcs
    rw [Derive.cutLiteral?.eq_def]
    simp [cutLiteral?_append hcs, Function.comp_def]
  cases h with
  | plain hquote hslash => exact cutLiteral?_append (by simp [hquote, hslash])
  | letter _ => exact hslash _ [] nofun
  | nul => exact hslash 'x' ['0', '0'] (by simp)
  | codePoint c =>
    have hdigits : ∀ d ∈ '\x7b' :: (hexDigits c.toNat ++ ['\x7d']), d ≠ '"' ∧ d ≠ '\\' := by
      intro d hd
      simp only [List.mem_cons, List.mem_append, List.not_mem_nil, or_false] at hd
      rcases hd with rfl | hd | rfl
      · decide
      · exact ⟨ne_of_mem_hexDigits hd (by decide), ne_of_mem_hexDigits hd (by decide)⟩
      · decide
    exact hslash 'u' _ hdigits

/-- The digits of a code point are read up to the closing brace. -/
theorem bracedEscape?_append {digits : List Char} (h : ∀ c ∈ cs, isHexDigit c = true) :
    bracedEscape? digits (cs ++ '\x7d' :: rest) =
      (digitsValue? 16 (digits.reverse ++ cs)).map fun n => (Char.ofNat n, rest) := by
  induction cs generalizing digits with
  | nil => simp [bracedEscape?]
  | cons c cs ih =>
    have hc := h c List.mem_cons_self
    have hbrace : c ≠ '\x7d' := by rintro rfl; cases hc
    have hunderscore : c ≠ '_' := by rintro rfl; cases hc
    rw [List.cons_append, bracedEscape?.eq_def]
    simp [hunderscore, ih fun d hd => h d (List.mem_cons_of_mem c hd)]

/-- What is written for a character is read as the character. -/
theorem Escapes.stringContent (h : Escapes e c) (most : Nat) :
    Derive.stringContent (most + 1) (e ++ rest) =
      (Derive.stringContent most rest).map (c :: ·) := by
  have hmap : (Derive.stringContent most rest).map (c :: ·) =
      (Derive.stringContent most rest).bind fun text => some (c :: text) := Option.map_eq_bind
  rw [hmap, stringContent.eq_def]
  cases h with
  | plain hquote hslash => simp [hslash]
  | @letter e _ h =>
    have hx : e ≠ 'x' := by rintro rfl; cases h
    have hu : e ≠ 'u' := by rintro rfl; cases h
    have hline : e ≠ '\n' := by rintro rfl; cases h
    simp [h, hx, hu]
  | nul => simp [show digitsValue? 16 ['0', '0'] = some 0 from rfl]
  | codePoint c =>
    have hdigits : digitsValue? 16 (hexDigits c.toNat) = some c.toNat :=
      digitsValue?_toDigits (by decide) (by decide) c.toNat
    have hread := @bracedEscape?_append _ rest [] fun d => isHexDigit_of_mem_hexDigits (n := c.toNat)
    simp [Quoted.byCodePoint, hread, hdigits]

/-- An escaped text does not end before its closing quote. -/
theorem cutLiteral?_escaped (text rest : List Char) :
    cutLiteral? (Token.escaped text ++ '"' :: rest) = some (Token.escaped text, rest) := by
  induction text with
  | nil => rfl
  | cons c text ih =>
    obtain ⟨e, hescapes, he⟩ := escaped_cons c text
    rw [he, List.append_assoc, hescapes.cutLiteral?, ih]
    rfl

/-- Nothing is shorter escaped. -/
theorem length_le_length_escaped (text : List Char) : text.length ≤ (Token.escaped text).length := by
  induction text with
  | nil => exact Nat.le_refl 0
  | cons c text ih =>
    obtain ⟨e, hescapes, he⟩ := escaped_cons c text
    have hpos : 0 < e.length := by cases hescapes <;> simp [Quoted.byCodePoint]
    rw [he, List.length_cons, List.length_append]
    omega

/-- An escaped text is read as what was escaped. -/
theorem stringContent_escaped (text rest : List Char) {most : Nat} (h : text.length < most) :
    stringContent most (Token.escaped text ++ '"' :: rest) = some text := by
  induction text generalizing most with
  | nil =>
    cases most with
    | zero => cases h
    | succ most => rfl
  | cons c text ih =>
    cases most with
    | zero => cases h
    | succ most =>
      obtain ⟨e, hescapes, he⟩ := escaped_cons c text
      rw [he, List.append_assoc, hescapes.stringContent, ih (Nat.lt_of_succ_lt_succ h)]
      rfl

/-- **A text is read back from its literal**, up to the closing quote. -/
theorem readLiteral_chars (text : String) (rest : List Char) :
    readLiteral ((Token.string text).chars ++ rest) = some (text, rest) := by
  have hlength := length_le_length_escaped text.toList
  have hcut := cutLiteral?_escaped text.toList rest
  have hcontent := @stringContent_escaped text.toList [] _ (Nat.lt_succ_of_le hlength)
  simp [Token.chars, readLiteral, hcut, hcontent]

end FieldChecks.Derive
