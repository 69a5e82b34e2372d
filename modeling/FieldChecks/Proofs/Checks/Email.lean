import FieldChecks.Proofs.Checks.Alphabet
import FieldChecks.Proofs.Pattern.Language

/-!
# Mail addresses — which of them are accepted

The pattern of mail addresses spells labels of a host as one character, and
maybe up to sixty-one others and a last one; a label is a word of at most
sixty-three characters with no hyphen at either end (`mem_label_iff`).
Where a match may end within a label does not matter, since the language
of an expression knows nothing of ways to match. So an address is
accepted if it has a user, an at sign and a host of labels between dots
(`isMailAddress_iff`).
-/

open scoped Computability

namespace FieldChecks

/-- A set of ASCII characters is told by them. -/
theorem RangeTable.contains_eq_of_ascii {table : RangeTable} {p : Char → Bool}
    (htable : isAsciiBut .empty table = true) (hp : ∀ c, p c = true → c.toNat < 128)
    (h : ∀ n < 128, table.contains (Char.ofNat n) = p (Char.ofNat n)) : table.contains = p := by
  funext c
  by_cases hc : c.toNat < 128
  · exact @forall_ascii (fun c => table.contains c = p c) h c hc
  · have hout : table.contains c = false := by
      by_contra hin
      rcases RangeTable.ascii_or_of_isAsciiBut htable (by simpa using hin) with hascii | hnone
      · exact hc hascii
      · cases hnone
    have hnot : p c = false := by
      by_contra hin
      exact hc (hp c (by simpa using hin))
    rw [hout, hnot]

namespace Format

/-! ## Mail addresses -/

/-- The characters of labels, but for the hyphen. -/
def isAlphanumeric (c : Char) : Bool :=
  isAsciiLetter c || isAsciiDigit c

/-- The marks that are taken in front of the at sign, besides letters and digits. -/
def userMarks : List Char :=
  ".!#$%&'*+/=?^_\x60\x7b|\x7d~-".toList

/-- The characters in front of the at sign. -/
def isUserChar (c : Char) : Bool :=
  isAlphanumeric c || userMarks.contains c

/-- **A label**: characters of a kind and hyphens, which stand at neither end. -/
structure IsLabel (edge : Char → Bool) (cs : List Char) : Prop where
  nonempty : cs ≠ []
  length_le : cs.length ≤ 63
  chars : ∀ c ∈ cs, edge c = true ∨ c = '-'
  first : cs.head? ≠ some '-'
  last : cs.getLast? ≠ some '-'

/-- **A host**: labels between dots. -/
def IsHost (cs : List Char) : Prop :=
  ∃ labels ≠ [], (∀ label ∈ labels, IsLabel isAlphanumeric label) ∧ cs = ['.'].intercalate labels

/-- **A mail address**: a user at a host. -/
def IsMailbox (cs : List Char) : Prop :=
  ∃ user host, cs = user ++ '@' :: host ∧ user ≠ [] ∧ (∀ c ∈ user, isUserChar c = true) ∧
    IsHost host

/-! ## Labels -/

open Pattern (Regex charOf)

/-- What may follow the first character of a label: at most sixty-one characters and a last one. -/
def labelRest (edge inner : RangeTable) : Regex :=
  .repetition 0 (some 1)
    (.group false (.sequence (.repetition 0 (some 61) (.one inner)) (.one edge)))

theorem mem_labelRest_iff {edge inner : RangeTable} {cs : List Char} :
    cs ∈ (labelRest edge inner).language ↔ cs = [] ∨ ∃ middle last, cs = middle ++ [last] ∧
      middle.length ≤ 61 ∧ (∀ c ∈ middle, inner.contains c = true) ∧ edge.contains last = true := by
  rw [labelRest, Regex.language_optional, Language.mem_add, Language.mem_one, Regex.language_group,
    Regex.language_sequence, Language.mem_mul]
  refine or_congr_right ⟨?_, ?_⟩
  · rintro ⟨middle, hmiddle, _, ⟨last, rfl, hlast⟩, rfl⟩
    obtain ⟨⟨-, hmost⟩, hall⟩ := Pattern.mem_language_repetition_one_iff.1 hmiddle
    exact ⟨middle, last, rfl, by simpa using hmost 61 rfl, hall, hlast⟩
  · rintro ⟨middle, last, rfl, hlength, hall, hlast⟩
    have hallows : Pattern.Allows 0 (some 61) middle.length := by
      simpa [Pattern.Allows] using hlength
    exact ⟨middle, Pattern.mem_language_repetition_one_iff.2 ⟨hallows, hall⟩, [last],
      ⟨last, rfl, hlast⟩, rfl⟩

/-- **One character, and maybe others**: that is a label. -/
theorem mem_label_iff {edge inner : RangeTable} {cs : List Char}
    (hinner : ∀ c, inner.contains c = true ↔ edge.contains c = true ∨ c = '-')
    (hhyphen : edge.contains '-' = false) :
    cs ∈ charOf edge.contains * (labelRest edge inner).language ↔ IsLabel edge.contains cs := by
  have hedge : ∀ {c}, edge.contains c = true → c ≠ '-' := by
    rintro c hc rfl
    exact absurd hc (by simp [hhyphen])
  rw [Language.mem_mul]
  constructor
  · rintro ⟨_, ⟨c, rfl, hc⟩, rest, hrest, rfl⟩
    obtain rfl | ⟨middle, last, rfl, hlength, hall, hlast⟩ := mem_labelRest_iff.1 hrest
    · exact ⟨by simp, by simp, by simp [hc], by simpa using hedge hc, by simpa using hedge hc⟩
    · refine ⟨by simp, ?_, ?_, by simpa using hedge hc, ?_⟩
      · rw [List.length_append, List.length_append, List.length_singleton, List.length_singleton]
        omega
      · simp only [List.singleton_append, List.forall_mem_cons, List.forall_mem_append]
        exact ⟨.inl hc, fun c hc => (hinner c).1 (hall c hc), .inl hlast, List.forall_mem_nil _⟩
      · simpa [List.getLast?_cons] using hedge hlast
  · rintro ⟨hne, hlength, hall, hfirst, hlast⟩
    -- the characters at the ends are no hyphens, so they are of the kind
    obtain _ | ⟨c, rest⟩ := cs
    · cases hne rfl
    obtain ⟨hc, hall⟩ := List.forall_mem_cons.1 hall
    have hc := hc.resolve_right fun h => hfirst (by rw [h]; rfl)
    refine ⟨[c], ⟨c, rfl, hc⟩, rest, mem_labelRest_iff.2 ?_, rfl⟩
    obtain rfl | ⟨middle, d, rfl⟩ := List.eq_nil_or_concat' rest
    · exact .inl rfl
    obtain ⟨hmiddle, hd⟩ := List.forall_mem_append.1 hall
    have hd := (hd d List.mem_cons_self).resolve_right fun h =>
      hlast (by simp [h, List.getLast?_cons])
    rw [List.length_cons, List.length_append, List.length_singleton] at hlength
    exact .inr ⟨middle, d, rfl, by omega, fun c hc => (hinner c).2 (hmiddle c hc), hd⟩

/-! ## The expression -/

/-- ASCII letters and digits. -/
def alphanumerics : RangeTable :=
  .ofRanges [(0x30, 0x39), (0x41, 0x5a), (0x61, 0x7a)]

/-- The characters of labels. -/
def labelChars : RangeTable :=
  alphanumerics.union (.between '-' '-')

/-- The characters in front of the at sign. -/
def userChars : RangeTable :=
  alphanumerics.union (.ofCodePoints (userMarks.map Char.toNat))

/-- What is read as the pattern of mail addresses. -/
def mailRegex : Regex :=
  .sequences [.here .textStart, .repetition 1 none (.one userChars), .one (.between '@' '@'),
    .one alphanumerics, labelRest alphanumerics labelChars,
    .repetition 0 none (.group false (.sequences [.one (.between '.' '.'), .one alphanumerics,
      labelRest alphanumerics labelChars])),
    .here .textEnd]

theorem read_emailPattern : Pattern.read emailPattern = .ok mailRegex :=
  Pattern.read_eq_ok_of_toOption (by decide +kernel)

theorem ascii_of_isAlphanumeric {c : Char} (h : isAlphanumeric c = true) : c.toNat < 128 := by
  simp only [isAlphanumeric, isAsciiLetter, isAsciiDigit, Bool.or_eq_true, Bool.and_eq_true,
    decide_eq_true_eq] at h
  rcases h with (⟨-, hle⟩ | ⟨-, hle⟩) | ⟨-, hle⟩ <;> exact Nat.lt_of_le_of_lt hle (by decide)

theorem contains_alphanumerics : alphanumerics.contains = isAlphanumeric :=
  RangeTable.contains_eq_of_ascii (by decide) (fun _ => ascii_of_isAlphanumeric) (by decide)

theorem contains_labelChars (c : Char) :
    labelChars.contains c = true ↔ alphanumerics.contains c = true ∨ c = '-' := by
  have heq : labelChars.contains = fun c => isAlphanumeric c || c == '-' := by
    refine RangeTable.contains_eq_of_ascii (by decide) (fun c hc => ?_) (by decide)
    rcases Bool.or_eq_true_iff.1 hc with hc | hc
    · exact ascii_of_isAlphanumeric hc
    · rw [eq_of_beq hc]
      decide
  rw [heq, contains_alphanumerics, Bool.or_eq_true, beq_iff_eq]

theorem contains_userChars : userChars.contains = isUserChar := by
  refine RangeTable.contains_eq_of_ascii (by decide +kernel) (fun c hc => ?_) (by decide +kernel)
  rcases Bool.or_eq_true_iff.1 hc with hc | hc
  · exact ascii_of_isAlphanumeric hc
  · have hall : userMarks.all (·.toNat < 128) = true := by decide
    simpa using List.all_eq_true.1 hall c (List.contains_iff_mem.1 hc)

/-! ## The language -/

/-- The words of labels. -/
def labels : Language Char :=
  charOf alphanumerics.contains * (labelRest alphanumerics labelChars).language

theorem mem_hosts_iff {host : List Char} :
    host ∈ labels * (charOf (· == '.') * labels)∗ ↔ IsHost host := by
  rw [Pattern.mem_mul_kstar_iff, IsHost, ← contains_alphanumerics]
  simp only [labels, mem_label_iff contains_labelChars (by decide)]

theorem language_mailRegex :
    mailRegex.language = (Regex.repetition 1 none (.one userChars)).language *
      (charOf (· == '@') * (labels * (charOf (· == '.') * labels)∗)) := by
  rw [mailRegex, Regex.language_sequences]
  simp only [List.map_cons, List.map_nil, List.prod_cons, List.prod_nil, Regex.language_here,
    Regex.language_one, Regex.language_star, Regex.language_group, Regex.language_sequences,
    RangeTable.contains_between, labels, one_mul, mul_one, mul_assoc]

theorem mem_language_mailRegex_iff {cs : List Char} :
    cs ∈ mailRegex.language ↔ IsMailbox cs := by
  rw [language_mailRegex, Language.mem_mul]
  constructor
  · rintro ⟨user, huser, _, hrest, rfl⟩
    obtain ⟨_, ⟨c, rfl, hc⟩, host, hhost, rfl⟩ := Language.mem_mul.1 hrest
    obtain ⟨⟨hleast, -⟩, hall⟩ := Pattern.mem_language_repetition_one_iff.1 huser
    rw [contains_userChars] at hall
    exact ⟨user, host, by rw [eq_of_beq hc]; rfl, List.ne_nil_of_length_pos hleast, hall,
      mem_hosts_iff.1 hhost⟩
  · rintro ⟨user, host, rfl, hne, hall, hhost⟩
    refine ⟨user, Pattern.mem_language_repetition_one_iff.2 ⟨⟨?_, nofun⟩, ?_⟩, _,
      Language.append_mem_mul ⟨'@', rfl, beq_self_eq_true _⟩ (mem_hosts_iff.2 hhost), rfl⟩
    · exact List.length_pos_of_ne_nil hne
    · rwa [contains_userChars]

theorem isMailAddress_eq {address : String} :
    isMailAddress address = mailRegex.matchesIn address := by
  have hread := read_emailPattern
  unfold isMailAddress
  -- the pattern is put out of sight, or else it would be read again here
  generalize Pattern.read emailPattern = found at hread ⊢
  rw [hread]

/-- **The accepted addresses** are users at hosts. -/
theorem isMailAddress_iff {address : String} :
    isMailAddress address = true ↔ IsMailbox address.toList := by
  have hanchored : mailRegex.isAnchored = true := by decide +kernel
  rw [isMailAddress_eq, Regex.matchesIn_iff_mem_language hanchored, mem_language_mailRegex_iff]

/-- **Mail addresses are accepted exactly.** From every text an address can be cut out, which is the
part between the last opening bracket and the closing one at the end, or else the text without the
blanks around it. The text of a value is accepted if its address is a user at a host: user
characters, and behind an at sign labels between dots. -/
theorem email_exact :
    (∀ text : String, ∃ address, mailAddress? text = some address ∧
      ∀ cs, AddressIn text.toList cs ↔ cs = address.toList) ∧
    ∀ value, email value = .ok () ↔
      ∃ text address, value.text = .ok text ∧ AddressIn text.toList address ∧
        IsMailbox address := by
  refine ⟨fun text => ⟨mailAddress text, mailAddress?_eq text, fun cs => addressIn_iff⟩,
    fun value => ?_⟩
  rw [email_eq_ok_iff]
  simp only [addressIn_iff, isMailAddress_iff]
  constructor
  · rintro ⟨text, htext, hmailbox⟩
    exact ⟨text, _, htext, rfl, hmailbox⟩
  · rintro ⟨text, _, htext, rfl, hmailbox⟩
    exact ⟨text, htext, hmailbox⟩

theorem email_exact_of_name :
    AddressIn "Jane Doe <jane@example.com>".toList "jane@example.com".toList ∧
      IsMailbox "jane@example.com".toList ∧
      email (.string "Jane Doe <jane@example.com>") = .ok () := by
  have hin : AddressIn "Jane Doe <jane@example.com>".toList "jane@example.com".toList :=
    @AddressIn.bracketed "Jane Doe ".toList "jane@example.com".toList (by decide)
  have hlabel : ∀ label ∈ ["example".toList, "com".toList], IsLabel isAlphanumeric label := by
    simp only [List.forall_mem_cons]
    refine ⟨⟨by decide, by decide, fun c hc => .inl ?_, by decide, by decide⟩,
      ⟨by decide, by decide, fun c hc => .inl ?_, by decide, by decide⟩, List.forall_mem_nil _⟩
    · exact List.all_eq_true.1 (by decide : "example".toList.all isAlphanumeric = true) c hc
    · exact List.all_eq_true.1 (by decide : "com".toList.all isAlphanumeric = true) c hc
  have hmailbox : IsMailbox "jane@example.com".toList :=
    ⟨"jane".toList, "example.com".toList, by decide, by decide,
      List.all_eq_true.1 (by decide : "jane".toList.all isUserChar = true),
      ["example".toList, "com".toList], by decide, hlabel, by decide⟩
  exact ⟨hin, hmailbox, (email_exact.2 _).2 ⟨_, _, rfl, hin, hmailbox⟩⟩

end Format

end FieldChecks
