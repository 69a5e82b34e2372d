import FieldChecks.Proofs.Checks.Email
import Mathlib.Data.List.DropRight

/-!
# Base64 — padded texts

The pattern of base64 takes characters by fours, and then maybe four more
of which one or two at the end are equals signs. Such a text is told by
its length and by what stands in front of the signs
(`mem_language_paddedRegex_iff`); how many there are follows from the
length. So the encoding of bytes is accepted, whatever the bytes are, and a
text that has lost some of its last four characters is not (`base64_exact`).
-/

open scoped Computability

namespace FieldChecks.Format

open Pattern (Regex charOf)

variable {p : Char → Bool} {cs front : List Char}

/-! ## Padded texts -/

/-- **A padded text**: characters of a kind, and at most two equals signs behind them that make the
length a multiple of four. -/
structure IsPadded (p : Char → Bool) (cs : List Char) : Prop where
  length_dvd : 4 ∣ cs.length
  padding : ∃ body count, cs = body ++ List.replicate count '=' ∧ count ≤ 2 ∧
    ∀ c ∈ body, p c = true

theorem isPadded_nil : IsPadded p [] :=
  ⟨by simp, [], 0, rfl, by simp, List.forall_mem_nil _⟩

/-- Groups of four in front make no difference. -/
theorem IsPadded.append (hdvd : 4 ∣ front.length) (hall : ∀ c ∈ front, p c = true)
    (h : IsPadded p cs) : IsPadded p (front ++ cs) := by
  obtain ⟨hlength, body, count, rfl, hcount, hbody⟩ := h
  refine ⟨?_, front ++ body, count, (List.append_assoc ..).symm, hcount,
    List.forall_mem_append.2 ⟨hall, hbody⟩⟩
  rw [List.length_append]
  exact Nat.dvd_add hdvd hlength

theorem IsPadded.imp {q : Char → Bool} (himp : ∀ c ∈ cs, p c = true → q c = true)
    (h : IsPadded p cs) : IsPadded q cs := by
  obtain ⟨hdvd, body, count, rfl, hcount, hbody⟩ := h
  exact ⟨hdvd, body, count, rfl, hcount,
    fun c hc => himp c (List.mem_append_left _ hc) (hbody c hc)⟩

/-- **No text of another length**: what has lost one to three characters is padded no more. -/
theorem IsPadded.not_rdrop {count : Nat} (h : IsPadded p cs) (hne : cs ≠ [])
    (hcount : count ∈ Set.Icc 1 3) : ¬ IsPadded p (cs.rdrop count) := by
  rintro ⟨hdvd, -⟩
  have hpos := List.length_pos_of_ne_nil hne
  have hwhole := h.length_dvd
  obtain ⟨hleast, hmost⟩ := hcount
  rw [List.rdrop, List.length_take] at hdvd
  omega

/-! ## The expression -/

/-- Groups of four characters of a set, and maybe a last group with equals signs at its end. -/
def paddedRegex (set : RangeTable) : Regex :=
  .sequences [.here .textStart,
    .repetition 0 none (.group false (.repetition 4 (some 4) (.one set))),
    .repetition 0 (some 1) (.group false (.choice
      (.sequences [.repetition 2 (some 2) (.one set), .one (.between '=' '='),
        .one (.between '=' '=')])
      (.sequences [.repetition 3 (some 3) (.one set), .one (.between '=' '=')]))),
    .here .textEnd]

/-- The characters of the pattern, which ignores letter case. -/
def base64Chars : RangeTable :=
  lettersAndDigits.union (.ofCodePoints ['+'.toNat, '/'.toNat])

theorem read_base64Pattern : Pattern.read base64Pattern = .ok (paddedRegex base64Chars) :=
  Pattern.read_eq_ok_of_toOption (by decide +kernel)

theorem language_paddedRegex {set : RangeTable} : (paddedRegex set).language =
    (charOf set.contains ^ 4)∗ * (1 + (charOf set.contains ^ 2 * charOf (· == '=') ^ 2 +
      charOf set.contains ^ 3 * charOf (· == '=') ^ 1)) := by
  rw [paddedRegex, Regex.language_sequences, pow_one, sq (charOf (· == '='))]
  simp only [List.map_cons, List.map_nil, List.prod_cons, List.prod_nil, Regex.language_here,
    Regex.language_star, Regex.language_optional, Regex.language_exactly, Regex.language_group,
    Regex.language_choice, Regex.language_sequences, Regex.language_one,
    RangeTable.contains_between, one_mul, mul_one]

/-- **The language** is the padded texts. The last group is whatever the groups of four leave, and
the length says how many signs it has. -/
theorem mem_language_paddedRegex_iff {set : RangeTable} :
    cs ∈ (paddedRegex set).language ↔ IsPadded set.contains cs := by
  rw [language_paddedRegex, Language.mem_mul]
  simp only [Language.mem_add, Language.mem_one, Pattern.mem_kstar_pow_charOf_iff,
    Pattern.mem_pow_mul_pow_iff]
  constructor
  · rintro ⟨groups, ⟨hdvd, hall⟩, last, hlast, rfl⟩
    refine .append hdvd hall ?_
    rcases hlast with rfl | ⟨body, hlength, hbody, rfl⟩ | ⟨body, hlength, hbody, rfl⟩
    · exact isPadded_nil
    · exact ⟨by simp [hlength], body, 2, rfl, by decide, hbody⟩
    · exact ⟨by simp [hlength], body, 1, rfl, by decide, hbody⟩
  · rintro ⟨hdvd, body, count, rfl, hcount, hbody⟩
    -- the body has as many groups as fit in it, and what is left over decides the signs
    rw [← List.take_append_drop (body.length / 4 * 4) body, List.forall_mem_append] at hbody
    obtain ⟨hgroups, hrest⟩ := hbody
    refine ⟨body.take (body.length / 4 * 4), ⟨?_, hgroups⟩,
      body.drop (body.length / 4 * 4) ++ List.replicate count '=', ?_, ?_⟩
    · rw [List.length_take, Nat.min_eq_left (Nat.div_mul_le_self _ 4)]
      exact Nat.dvd_mul_left 4 _
    · have hlength : (body.drop (body.length / 4 * 4)).length = body.length % 4 := by
        rw [List.length_drop]
        omega
      rw [List.length_append, List.length_replicate] at hdvd
      generalize body.drop (body.length / 4 * 4) = rest at hrest hlength
      obtain ⟨hnone, rfl⟩ | ⟨htwo, rfl⟩ | ⟨hthree, rfl⟩ :
          rest.length = 0 ∧ count = 0 ∨ rest.length = 2 ∧ count = 2 ∨
            rest.length = 3 ∧ count = 1 := by
        omega
      · rw [List.eq_nil_of_length_eq_zero hnone]
        exact .inl rfl
      · exact .inr (.inl ⟨rest, htwo, hrest, rfl⟩)
      · exact .inr (.inr ⟨rest, hthree, hrest, rfl⟩)
    · rw [← List.append_assoc, List.take_append_drop]

/-- A text is accepted if it is padded, with the characters of the pattern. -/
theorem accepts_base64_iff {value : Value} {text : String} (htext : value.text = .ok text) :
    Accepts "base64" value ↔ IsPadded base64Chars.contains text.toList := by
  rw [accepts_iff rfl, Pattern.fixed_eq_ok_iff_of_read read_base64Pattern htext,
    Regex.matchesIn_iff_mem_language (by decide), mem_language_paddedRegex_iff]

/-! ## ASCII characters -/

/-- The characters of base64 but for the equals sign. -/
def isBase64Char (c : Char) : Bool :=
  isAlphanumeric c || c == '+' || c == '/'

theorem contains_base64Chars {c : Char} (hascii : c.toNat < 128) :
    base64Chars.contains c = isBase64Char c :=
  @forall_ascii (fun c => base64Chars.contains c = isBase64Char c) (by decide) c hascii

theorem ascii_of_isBase64Char {c : Char} (h : isBase64Char c = true) : c.toNat < 128 := by
  simp only [isBase64Char, Bool.or_eq_true, beq_iff_eq] at h
  rcases h with (h | rfl) | rfl
  · exact ascii_of_isAlphanumeric h
  · decide
  · decide

/-! ## The encoding of bytes -/

/-- The characters of base64, in the order of the numbers that they stand for. -/
def encodingChars : List Char :=
  "ABCDEFGHIJKLMNOPQRSTUVWXYZabcdefghijklmnopqrstuvwxyz0123456789+/".toList

theorem length_encodingChars : encodingChars.length = 64 := by decide

/-- The character of the last six bits of a number. -/
def encodingChar (bits : Nat) : Char :=
  encodingChars.get ⟨bits % 64, by rw [length_encodingChars]; exact Nat.mod_lt _ (by decide)⟩

/-- Three bytes as four characters. -/
def encodeGroup (first second third : UInt8) : List Char :=
  let bits := first.toNat * 2 ^ 16 + second.toNat * 2 ^ 8 + third.toNat
  [bits / 2 ^ 18, bits / 2 ^ 12, bits / 2 ^ 6, bits].map encodingChar

/-- **The encoding of bytes**: each three as a group. What is left at the end is filled up with zero
bytes, and equals signs stand for them. -/
def encode : List UInt8 → List Char
  | [] => []
  | [first] => (encodeGroup first 0 0).take 2 ++ List.replicate 2 '='
  | [first, second] => (encodeGroup first second 0).take 3 ++ List.replicate 1 '='
  | first :: second :: third :: rest => encodeGroup first second third ++ encode rest

theorem length_encodeGroup {first second third : UInt8} :
    (encodeGroup first second third).length = 4 := rfl

theorem isBase64Char_of_mem_encodeGroup {first second third : UInt8} :
    ∀ c ∈ encodeGroup first second third, isBase64Char c = true := by
  have hall : ∀ c ∈ encodingChars, isBase64Char c = true := List.all_eq_true.1 (by decide)
  rw [encodeGroup, List.forall_mem_map]
  exact fun bits _ => hall _ (List.get_mem ..)

/-- The bytes that are left over make a padded group. -/
theorem isPadded_take_encodeGroup {first second third : UInt8} {count : Nat} (hcount : count ≤ 2) :
    IsPadded isBase64Char
      ((encodeGroup first second third).take (4 - count) ++ List.replicate count '=') := by
  refine ⟨?_, _, count, rfl, hcount,
    fun c hc => isBase64Char_of_mem_encodeGroup c (List.mem_of_mem_take hc)⟩
  rw [List.length_append, List.length_take, List.length_replicate, length_encodeGroup]
  omega

theorem isPadded_encode (bytes : List UInt8) : IsPadded isBase64Char (encode bytes) := by
  fun_induction encode bytes with
  | case1 => exact isPadded_nil
  | case2 first => exact isPadded_take_encodeGroup (Nat.le_refl 2)
  | case3 first second => exact isPadded_take_encodeGroup (Nat.le_succ 1)
  | case4 first second third rest ih =>
    exact ih.append (by simp [length_encodeGroup]) isBase64Char_of_mem_encodeGroup

example : String.ofList (encode [0x66, 0x6f, 0x6f, 0x62, 0x61]) = "Zm9vYmE=" := by decide

/-- **Base64 is accepted exactly.** An ASCII text is accepted if and only if it is padded; the
encoding of bytes is accepted, whatever they are; and an accepted text that loses one to three
characters at its end is accepted no more. -/
theorem base64_exact {value : Value} {text : String} (htext : value.text = .ok text) :
    ((∀ c ∈ text.toList, c.toNat < 128) →
      (Accepts "base64" value ↔ IsPadded isBase64Char text.toList)) ∧
    (∀ bytes, text = .ofList (encode bytes) → Accepts "base64" value) ∧
    (Accepts "base64" value → text ≠ "" → ∀ shorter, ∀ count ∈ Set.Icc 1 3,
      Value.text shorter = .ok (.ofList (text.toList.rdrop count)) →
        ¬ Accepts "base64" shorter) := by
  have hpadded : IsPadded isBase64Char text.toList → Accepts "base64" value := by
    rw [accepts_base64_iff htext]
    exact .imp fun c _ hc => (contains_base64Chars (ascii_of_isBase64Char hc)).trans hc
  refine ⟨fun hascii => ⟨fun haccepts => ?_, hpadded⟩, ?_, ?_⟩
  · rw [accepts_base64_iff htext] at haccepts
    exact haccepts.imp fun c hmem hc => (contains_base64Chars (hascii c hmem)).symm.trans hc
  · rintro bytes rfl
    exact hpadded (by rw [String.toList_ofList]; exact isPadded_encode bytes)
  · intro haccepts hne shorter count hcount hshorter
    rw [accepts_base64_iff htext] at haccepts
    rw [accepts_base64_iff hshorter, String.toList_ofList]
    exact haccepts.not_rdrop (by rwa [Ne, String.toList_eq_nil_iff]) hcount

/-- Four bytes, and what is left of their encoding without its last sign. -/
theorem base64_exact_of_four_bytes :
    Value.text (.string "Zm9vYg==") = .ok "Zm9vYg==" ∧
      (∀ c ∈ "Zm9vYg==".toList, c.toNat < 128) ∧
      "Zm9vYg==" = .ofList (encode [0x66, 0x6f, 0x6f, 0x62]) ∧
      Accepts "base64" (.string "Zm9vYg==") ∧ IsPadded isBase64Char "Zm9vYg==".toList ∧
      ¬ Accepts "base64" (.string "Zm9vYg=") := by
  have hascii : ∀ c ∈ "Zm9vYg==".toList, c.toNat < 128 := by simp
  have hencode : "Zm9vYg==" = .ofList (encode [0x66, 0x6f, 0x6f, 0x62]) := by decide
  obtain ⟨hexact, haccepts, hshorter⟩ := @base64_exact (.string "Zm9vYg==") "Zm9vYg==" rfl
  have hwhole := haccepts _ hencode
  exact ⟨rfl, hascii, hencode, hwhole, (hexact hascii).1 hwhole,
    hshorter hwhole (by decide) _ 1 ⟨by decide, by decide⟩ rfl⟩

end FieldChecks.Format
