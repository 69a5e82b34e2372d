import FieldChecks.Proofs.Checks.AsciiText
import FieldChecks.Proofs.Checks.Email

/-!
# Domains — which of them are accepted, and which are hosts of mail

A domain is told by what is between its dots: labels as in the host of a
mail address, and a last one of two letters or more
(`mem_language_domainRegex_iff`). The pattern of domains gives the last
label no largest length, and the pattern of mail addresses treats all
labels alike. So a domain is a host of mail up to the length of its last
label (`isHost_iff_of_splitOn`), if it is ASCII. An accepted text has no
mark of an address in it, ASCII or not, so behind the at sign all of it is
judged as a host (`accepts_email_iff`).
-/

open scoped Computability

namespace FieldChecks

/-! ## Letter case -/

theorem isAsciiLetter_asciiLower (c : Char) : isAsciiLetter (asciiLower c) = isAsciiLetter c := by
  by_cases hascii : c.toNat < 128
  · exact @forall_ascii (fun c => isAsciiLetter (asciiLower c) = isAsciiLetter c) (by decide) c
      hascii
  · rw [asciiLower_of_not_ascii (Nat.not_lt.1 hascii)]

theorem asciiLower_of_not_letter {c : Char} (h : isAsciiLetter c = false) : asciiLower c = c := by
  by_cases hascii : c.toNat < 128
  · exact @forall_ascii (fun c => isAsciiLetter c = false → asciiLower c = c) (by decide) c hascii h
  · exact asciiLower_of_not_ascii (Nat.not_lt.1 hascii)

theorem ascii_asciiLower {c : Char} (h : c.toNat < 128) : (asciiLower c).toNat < 128 :=
  @forall_ascii (fun c => (asciiLower c).toNat < 128) (by decide) c h

/-- Only a character that is no letter becomes one that is none. -/
theorem asciiLower_eq_iff {c d : Char} (hd : isAsciiLetter d = false) :
    asciiLower c = d ↔ c = d := by
  constructor
  · rintro rfl
    rw [isAsciiLetter_asciiLower] at hd
    exact (asciiLower_of_not_letter hd).symm
  · rintro rfl
    exact asciiLower_of_not_letter hd

/-! ## Texts split at a character -/

theorem splitOn_map {f : Char → Char} {separator : Char} (h : ∀ c, f c = separator ↔ c = separator)
    (cs : List Char) : (cs.map f).splitOn separator = (cs.splitOn separator).map (List.map f) := by
  induction cs with
  | nil => rfl
  | cons c cs ih =>
    rw [List.map_cons, List.splitOn_cons_eq_if_modifyHead, List.splitOn_cons_eq_if_modifyHead, ih]
    simp only [beq_iff_eq, h]
    split_ifs with hc
    · rfl
    · cases cs.splitOn separator <;> rfl

namespace Format

open Pattern (Regex charOf)

variable {cs : List Char} {labels : List (List Char)} {label last : List Char}

/-! ## Domains -/

/-- The last label of a domain: two letters or more. -/
def IsLastLabel (cs : List Char) : Prop :=
  2 ≤ cs.length ∧ ∀ c ∈ cs, isAsciiLetter c = true

/-- **A domain**: between its dots there are two labels or more, and the last one is of letters. -/
def IsDomain (cs : List Char) : Prop :=
  ∃ labels last, cs.splitOn '.' = labels ++ [last] ∧ labels ≠ [] ∧
    (∀ label ∈ labels, IsLabel isAlphanumeric label) ∧ IsLastLabel last

/-- One letter or digit over and over is a label. -/
theorem isLabel_replicate {c : Char} {count : Nat} (hc : isAlphanumeric c = true)
    (hleast : 1 ≤ count) (hmost : count ≤ 63) :
    IsLabel isAlphanumeric (List.replicate count c) := by
  have hall : ∀ d ∈ List.replicate count c, isAlphanumeric d = true := fun d hd => by
    rwa [List.eq_of_mem_replicate hd]
  have hhyphen : isAlphanumeric '-' ≠ true := by decide
  refine ⟨?_, by rwa [List.length_replicate], fun d hd => .inl (hall d hd), fun h => ?_,
    fun h => ?_⟩
  · rw [Ne, List.replicate_eq_nil_iff]
    omega
  · exact hhyphen (hall _ (List.mem_of_head? h))
  · exact hhyphen (hall _ (List.mem_of_getLast? h))

theorem IsLabel.dot_not_mem (h : IsLabel isAlphanumeric label) : '.' ∉ label := fun hmem => by
  rcases h.chars '.' hmem with hdot | hdot
  · cases hdot
  · exact absurd hdot (by decide)

theorem IsLastLabel.dot_not_mem (h : IsLastLabel last) : '.' ∉ last := fun hmem => by
  cases h.2 '.' hmem

/-- A domain is its labels with dots between them. -/
theorem isDomain_iff_intercalate : IsDomain cs ↔ ∃ labels ≠ [],
    (∀ label ∈ labels, IsLabel isAlphanumeric label) ∧
      ∃ last, IsLastLabel last ∧ cs = ['.'].intercalate (labels ++ [last]) := by
  constructor
  · rintro ⟨labels, last, hsplit, hne, hall, hlast⟩
    exact ⟨labels, hne, hall, last, hlast, by rw [← hsplit, List.intercalate_splitOn]⟩
  · rintro ⟨labels, hne, hall, last, hlast, rfl⟩
    refine ⟨labels, last, List.splitOn_intercalate '.' ?_ (by simp), hne, hall, hlast⟩
    exact List.forall_mem_append.2
      ⟨fun label hlabel => (hall label hlabel).dot_not_mem,
        List.forall_mem_singleton.2 hlast.dot_not_mem⟩

/-- And a host of mail is told by its labels, too. -/
theorem isHost_iff_splitOn :
    IsHost cs ↔ ∀ label ∈ cs.splitOn '.', IsLabel isAlphanumeric label := by
  constructor
  · rintro ⟨labels, hne, hall, rfl⟩
    rwa [List.splitOn_intercalate '.' (fun label hlabel => (hall label hlabel).dot_not_mem) hne]
  · intro hall
    exact ⟨cs.splitOn '.', List.splitOn_ne_nil _ _, hall, (List.intercalate_splitOn '.').symm⟩

/-! ## The expression -/

/-- The ASCII letters. -/
def asciiLetters : RangeTable :=
  .ofRanges [(0x41, 0x5a), (0x61, 0x7a)]

/-- What is read as the pattern of domains, with ASCII letters. -/
def domainRegex : Regex :=
  .sequences [.here .textStart,
    .repetition 1 none (.group true (.sequences [.one alphanumerics,
      .repetition 0 (some 1) (.group true
        (.sequence (.repetition 0 (some 61) (.one labelChars)) (.one alphanumerics))),
      .one (.between '.' '.')])),
    .repetition 2 none (.one asciiLetters), .here .textEnd]

theorem read_domainPattern :
    (Pattern.read domainPattern).toOption.map Regex.ascii = some domainRegex := by
  decide +kernel

theorem contains_asciiLetters : asciiLetters.contains = isAsciiLetter := by
  refine RangeTable.contains_eq_of_ascii (by decide) (fun c hc => ?_) (by decide)
  exact ascii_of_isAlphanumeric (Bool.or_eq_true_iff.2 (.inl hc))

theorem mem_labels_iff : label ∈ Format.labels ↔ IsLabel isAlphanumeric label := by
  rw [Format.labels, mem_label_iff contains_labelChars (by decide), contains_alphanumerics]

theorem mem_language_domainRegex_iff : cs ∈ domainRegex.language ↔ IsDomain cs := by
  have hlast : ∀ {last}, last ∈ (Regex.repetition 2 none (.one asciiLetters)).language ↔
      IsLastLabel last := by
    intro last
    rw [Pattern.mem_language_repetition_one_iff, contains_asciiLetters]
    exact and_congr_left' (and_iff_left nofun)
  have hended : (Regex.group true (.sequences [.one alphanumerics,
      .repetition 0 (some 1) (.group true
        (.sequence (.repetition 0 (some 61) (.one labelChars)) (.one alphanumerics))),
      .one (.between '.' '.')])).language = Format.labels * charOf (· == '.') := by
    rw [← RangeTable.contains_between, Format.labels, mul_assoc]
    rfl
  rw [domainRegex, Regex.language_sequences]
  simp only [List.map_cons, List.map_nil, List.prod_cons, List.prod_nil, Regex.language_here,
    one_mul, mul_one]
  -- every label but the last has its dot behind it
  rw [Pattern.mem_oneOrMore_mul_iff hended, isDomain_iff_intercalate]
  simp only [mem_labels_iff, hlast]

/-- An ASCII text is accepted if it is a domain. -/
theorem accepts_domain_iff {value : Value} {text : String} (htext : value.text = .ok text)
    (hascii : ∀ c ∈ text.toList, c.toNat < 128) :
    Accepts "domain" value ↔ IsDomain text.toList := by
  rw [accepts_iff rfl, Pattern.fixed_eq_ok_iff_of_ascii read_domainPattern (by decide) htext hascii,
    mem_language_domainRegex_iff]

/-! ## Letter case -/

theorem isAlphanumeric_asciiLower (c : Char) :
    isAlphanumeric (asciiLower c) = isAlphanumeric c := by
  cases hletter : isAsciiLetter c with
  | true => simp [isAlphanumeric, isAsciiLetter_asciiLower, hletter]
  | false => rw [asciiLower_of_not_letter hletter]

theorem isLabel_map_asciiLower :
    IsLabel isAlphanumeric (label.map asciiLower) ↔ IsLabel isAlphanumeric label := by
  have hhyphen : ∀ c, asciiLower c = '-' ↔ c = '-' := fun c => asciiLower_eq_iff (by decide)
  have hend : ∀ {end? : Option Char}, end?.map asciiLower = some '-' ↔ end? = some '-' := by
    simp [Option.map_eq_some_iff, hhyphen]
  constructor
  · rintro ⟨hne, hlength, hall, hfirst, hlast⟩
    rw [List.length_map] at hlength
    rw [List.head?_map, Ne, hend] at hfirst
    rw [List.getLast?_map, Ne, hend] at hlast
    rw [List.forall_mem_map] at hall
    simp only [isAlphanumeric_asciiLower, hhyphen] at hall
    exact ⟨by simpa using hne, hlength, hall, hfirst, hlast⟩
  · rintro ⟨hne, hlength, hall, hfirst, hlast⟩
    refine ⟨by simpa using hne, by rwa [List.length_map], ?_, ?_, ?_⟩
    · rw [List.forall_mem_map]
      simpa only [isAlphanumeric_asciiLower, hhyphen] using hall
    · rwa [List.head?_map, Ne, hend]
    · rwa [List.getLast?_map, Ne, hend]

theorem isLastLabel_map_asciiLower : IsLastLabel (last.map asciiLower) ↔ IsLastLabel last := by
  rw [IsLastLabel, List.length_map, List.forall_mem_map]
  simp only [isAsciiLetter_asciiLower]
  exact Iff.rfl

/-- **Letter case does not matter** for a domain. -/
theorem isDomain_map_asciiLower : IsDomain (cs.map asciiLower) ↔ IsDomain cs := by
  rw [IsDomain, splitOn_map fun c => asciiLower_eq_iff (by decide), IsDomain]
  constructor
  · rintro ⟨lower, lowerLast, hsplit, hne, hall, hlast⟩
    obtain ⟨labels, rest, hlabels, rfl, hrest⟩ := List.map_eq_append_iff.1 hsplit
    obtain ⟨last, rfl, rfl⟩ := List.map_eq_singleton_iff.1 hrest
    rw [List.forall_mem_map] at hall
    simp only [isLabel_map_asciiLower] at hall
    exact ⟨labels, last, hlabels, by simpa using hne, hall, isLastLabel_map_asciiLower.1 hlast⟩
  · rintro ⟨labels, last, hsplit, hne, hall, hlast⟩
    refine ⟨labels.map (List.map asciiLower), last.map asciiLower, by rw [hsplit]; simp,
      by simpa using hne, ?_, isLastLabel_map_asciiLower.2 hlast⟩
    rw [List.forall_mem_map]
    simpa only [isLabel_map_asciiLower] using hall

/-- **Domains are accepted exactly**, as far as texts are ASCII: between the dots of an accepted
text there are labels, two or more, and the last one is of two letters or more. A text is accepted
if and only if it is accepted in lower case. -/
theorem domain_exact {value : Value} {text : String} (htext : value.text = .ok text)
    (hascii : ∀ c ∈ text.toList, c.toNat < 128) :
    (Accepts "domain" value ↔ IsDomain text.toList) ∧
      (Accepts "domain" (.string (.ofList (text.toList.map asciiLower))) ↔
        Accepts "domain" value) := by
  have hlower : ∀ c ∈ (String.ofList (text.toList.map asciiLower)).toList, c.toNat < 128 := by
    rw [String.toList_ofList, List.forall_mem_map]
    exact fun c hc => ascii_asciiLower (hascii c hc)
  refine ⟨accepts_domain_iff htext hascii, ?_⟩
  rw [accepts_domain_iff htext hascii, accepts_domain_iff rfl hlower, String.toList_ofList,
    isDomain_map_asciiLower]

/-- A label of the largest length, and the least last one, in both cases. -/
theorem domain_exact_of_longest_label :
    Value.text (.string (.ofList (List.replicate 63 'a' ++ ".Co".toList))) =
        .ok (.ofList (List.replicate 63 'a' ++ ".Co".toList)) ∧
      (∀ c ∈ (String.ofList (List.replicate 63 'a' ++ ".Co".toList)).toList, c.toNat < 128) ∧
      Accepts "domain" (.string (.ofList (List.replicate 63 'a' ++ ".Co".toList))) := by
  have hascii : ∀ c ∈ (String.ofList (List.replicate 63 'a' ++ ".Co".toList)).toList,
      c.toNat < 128 := by
    simp
  have hdomain :
      IsDomain (String.ofList (List.replicate 63 'a' ++ ".Co".toList)).toList := by
    rw [String.toList_ofList, isDomain_iff_intercalate]
    have hlabel : IsLabel isAlphanumeric (List.replicate 63 'a') :=
      isLabel_replicate (by decide) (by decide) (by decide)
    exact ⟨[List.replicate 63 'a'], by simp, List.forall_mem_singleton.2 hlabel, "Co".toList,
      ⟨by decide, List.all_eq_true.1 (by decide)⟩, rfl⟩
  exact ⟨rfl, hascii, (domain_exact rfl hascii).1.2 hdomain⟩

/-! ## Hosts of mail -/

/-- **The characters of a domain**, whether it is ASCII or not. -/
theorem chars_of_domain {value : Value} {text : String} (htext : value.text = .ok text)
    (h : Accepts "domain" value) : ∀ c ∈ text.toList,
      isAlphanumeric c = true ∨ c = '-' ∨ c = '.' ∨ foldedLetters.contains c = true := by
  intro c hc
  have hformat : ("domain", domainPattern, foldedLetters) ∈ narrowFormats :=
    List.mem_of_getElem? (by rfl : narrowFormats[6]? = some _)
  rcases ascii_or_stray hformat htext h c hc with hascii | hfolded
  · rw [accepts_iff rfl] at h
    obtain ⟨set, hset, hcontains⟩ :=
      Pattern.exists_set_of_fixed_eq_ok read_domainPattern (by decide) htext h c hc hascii
    have hsets : domainRegex.sets =
      [alphanumerics, labelChars, alphanumerics, .between '.' '.', asciiLetters] := rfl
    rw [hsets] at hset
    simp only [List.mem_cons, List.not_mem_nil, or_false] at hset
    rw [← contains_alphanumerics]
    rcases hset with rfl | rfl | rfl | rfl | rfl
    · exact .inl hcontains
    · exact ((contains_labelChars c).1 hcontains).imp_right .inl
    · exact .inl hcontains
    · rw [RangeTable.contains_between, beq_iff_eq] at hcontains
      exact .inr (.inr (.inl hcontains))
    · rw [contains_asciiLetters] at hcontains
      rw [contains_alphanumerics, isAlphanumeric, hcontains]
      exact .inl rfl
  · exact .inr (.inr (.inr hfolded))

/-- A character that tells the address in a text: a blank, an at sign or an opening bracket. -/
def isMark (c : Char) : Bool :=
  isBlank c || c == '@' || c == '<'

/-- No mark of an address stands in a domain. -/
theorem not_isMark_of_domain {value : Value} {text : String} (htext : value.text = .ok text)
    (h : Accepts "domain" value) : ∀ c ∈ text.toList, isMark c = false := by
  have halphanumeric : ∀ c, isAlphanumeric c = true → isMark c = false := fun c hc =>
    @forall_ascii (fun c => isAlphanumeric c = true → isMark c = false) (by decide) c
      (ascii_of_isAlphanumeric hc) hc
  have hfolded : ∀ c, foldedLetters.contains c = true → isMark c = false := by
    intro c hc
    obtain ⟨range, hrange, hfirst, hlast⟩ := RangeTable.exists_range_of_contains hc
    have hchar : c = Char.ofNat c.toNat := (Char.ofNat_toNat c).symm
    have hranges : foldedLetters.ranges = [(0x17f, 0x17f), (0x212a, 0x212a)] := rfl
    rw [hranges, List.mem_pair] at hrange
    rw [hchar]
    rcases hrange with rfl | rfl
    · rw [Nat.le_antisymm hlast hfirst]
      decide
    · rw [Nat.le_antisymm hlast hfirst]
      decide
  intro c hc
  rcases chars_of_domain htext h c hc with hc | rfl | rfl | hc
  · exact halphanumeric c hc
  · decide
  · decide
  · exact hfolded c hc

/-- The at sign tells the user from the host. -/
theorem isMailbox_iff_isHost {user host : List Char} (hne : user ≠ [])
    (huser : ∀ c ∈ user, isUserChar c = true) (hhost : '@' ∉ host) :
    IsMailbox (user ++ '@' :: host) ↔ IsHost host := by
  have hmark : ∀ {user : List Char}, (∀ c ∈ user, isUserChar c = true) → '@' ∉ user :=
    fun huser hmem => absurd (huser '@' hmem) (by decide)
  constructor
  · rintro ⟨user', host', heq, -, huser', hhost'⟩
    obtain ⟨-, -, rfl⟩ := (List.append_cons_inj_of_notMem (hmark huser) hhost).1 heq
    exact hhost'
  · exact fun h => ⟨user, host, rfl, hne, huser, h⟩

/-- The last label of a domain is one of a host, unless it is too long. -/
theorem isHost_iff_of_splitOn (hsplit : cs.splitOn '.' = labels ++ [last])
    (hall : ∀ label ∈ labels, IsLabel isAlphanumeric label) (hlast : IsLastLabel last) :
    IsHost cs ↔ last.length ≤ 63 := by
  have hhyphen : ∀ {c}, c ∈ last → c ≠ '-' := by
    rintro _ hmem rfl
    exact absurd (hlast.2 '-' hmem) (by decide)
  rw [isHost_iff_splitOn, hsplit, List.forall_mem_append, and_iff_right hall,
    List.forall_mem_singleton]
  refine ⟨IsLabel.length_le, fun hlength => ⟨?_, hlength, ?_, ?_, ?_⟩⟩
  · exact List.ne_nil_of_length_pos (Nat.lt_of_lt_of_le (by decide) hlast.1)
  · exact fun c hc => .inl (by rw [isAlphanumeric, hlast.2 c hc, Bool.true_or])
  · exact fun h => hhyphen (List.mem_of_head? h) rfl
  · exact fun h => hhyphen (List.mem_of_getLast? h) rfl

/-- A host is of ASCII characters. -/
theorem IsHost.ascii (h : IsHost cs) : ∀ c ∈ cs, c.toNat < 128 := by
  obtain ⟨labels, -, hall, rfl⟩ := h
  refine Pattern.forall_mem_intercalate (by decide) fun label hlabel c hc => ?_
  rcases (hall label hlabel).chars c hc with hc | rfl
  · exact ascii_of_isAlphanumeric hc
  · decide

/-- Mail to a user at a place is accepted if the place is a host. -/
theorem accepts_email_iff {mail : Value} {place : String}
    (hmarks : ∀ c ∈ place.toList, isMark c = false) (hmail : mail.text = .ok ("a@" ++ place)) :
    Accepts "email" mail ↔ IsHost place.toList := by
  simp only [isMark, Bool.or_eq_false_iff, beq_eq_false_iff_ne] at hmarks
  have htoList : ("a@" ++ place).toList = ['a'] ++ '@' :: place.toList := by
    rw [String.toList_append]
    rfl
  have hall : ∀ c ∈ ("a@" ++ place).toList, isBlank c = false ∧ c ≠ '<' := by
    rw [htoList]
    simp only [List.singleton_append, List.forall_mem_cons]
    exact ⟨by decide, by decide, fun c hc => ⟨(hmarks c hc).1.1, (hmarks c hc).2⟩⟩
  -- no brackets and no blanks, so the whole text is the address
  have haddress : AddressIn ("a@" ++ place).toList ("a@" ++ place).toList := by
    refine .plain (.inr fun hmem => (hall '<' hmem).2 rfl) (Text.trim_eq_iff.1 ?_)
    exact Text.trim_eq_self fun c hc => by simp [(hall c hc).1]
  rw [@accepts_iff _ _ email rfl, email_eq_ok_iff]
  simp only [hmail, Except.ok.injEq, exists_eq_left', haddress.mailAddress_eq,
    String.ofList_toList, isMailAddress_iff]
  rw [htoList, isMailbox_iff_isHost (List.cons_ne_nil _ _)
    (List.forall_mem_singleton.2 (by decide)) fun hmem => (hmarks '@' hmem).1.2 rfl]

/-- **A domain is a host of mail** if and only if it is ASCII and its last label is no longer than
the others may be. All other labels of an accepted text are short enough. -/
theorem mail_host_of_domain {value mail : Value} {domain : String} (htext : value.text = .ok domain)
    (hmail : mail.text = .ok ("a@" ++ domain)) (haccepts : Accepts "domain" value) :
    ∃ last, (domain.toList.splitOn '.').getLast? = some last ∧
      (Accepts "email" mail ↔ (∀ c ∈ domain.toList, c.toNat < 128) ∧ last.length ≤ 63) := by
  have hlast : (domain.toList.splitOn '.').getLast? = some _ :=
    List.getLast?_eq_some_getLast (List.splitOn_ne_nil _ _)
  refine ⟨_, hlast, ?_⟩
  rw [accepts_email_iff (not_isMark_of_domain htext haccepts) hmail]
  -- both sides ask for ASCII, and there a domain has labels
  refine ⟨fun hhost => ⟨hhost.ascii, ?_⟩, fun ⟨hascii, hlength⟩ => ?_⟩
  · obtain ⟨labels, last, hsplit, -, hall, hletters⟩ :=
      (accepts_domain_iff htext hhost.ascii).1 haccepts
    simp only [hsplit, List.getLast_concat]
    exact (isHost_iff_of_splitOn hsplit hall hletters).1 hhost
  · obtain ⟨labels, last, hsplit, -, hall, hletters⟩ :=
      (accepts_domain_iff htext hascii).1 haccepts
    simp only [hsplit, List.getLast_concat] at hlength
    exact (isHost_iff_of_splitOn hsplit hall hletters).2 hlength

theorem mail_host_of_domain_of_short :
    Value.text (.string "b.co") = .ok "b.co" ∧
      Value.text (.string ("a@" ++ "b.co")) = .ok ("a@" ++ "b.co") ∧
      Accepts "domain" (.string "b.co") ∧ Accepts "email" (.string ("a@" ++ "b.co")) := by
  have hascii : ∀ c ∈ "b.co".toList, c.toNat < 128 := by simp
  have hsplit : "b.co".toList.splitOn '.' = ["b".toList] ++ ["co".toList] := by decide
  have hdomain : IsDomain "b.co".toList :=
    ⟨_, _, hsplit, by decide, List.forall_mem_singleton.2 (@isLabel_replicate 'b' 1 (by decide)
      (by decide) (by decide)), by decide, List.all_eq_true.1 (by decide)⟩
  have haccepts : Accepts "domain" (.string "b.co") := (accepts_domain_iff rfl hascii).2 hdomain
  obtain ⟨last, hlast, hemail⟩ :=
    @mail_host_of_domain (.string "b.co") (.string ("a@" ++ "b.co")) "b.co" rfl rfl haccepts
  rw [hsplit] at hlast
  obtain rfl := Option.some.inj hlast
  exact ⟨rfl, rfl, haccepts, hemail.2 ⟨hascii, by decide⟩⟩

/-- **Not every domain is a host of mail**: its last label may be too long for one. -/
theorem not_mail_host_of_long_label :
    ¬ ∀ domain : String, Accepts "domain" (.string domain) →
      Accepts "email" (.string ("a@" ++ domain)) := by
  intro h
  have hascii : ∀ c ∈ (String.ofList ("a.".toList ++ List.replicate 64 'b')).toList,
      c.toNat < 128 := by
    simp
  have hsplit : (String.ofList ("a.".toList ++ List.replicate 64 'b')).toList.splitOn '.' =
      ["a".toList] ++ [List.replicate 64 'b'] := by
    rw [String.toList_ofList]
    have hparts : ∀ part ∈ ["a".toList, List.replicate 64 'b'], '.' ∉ part := by simp
    exact List.splitOn_intercalate '.' hparts (by simp)
  have hall : ∀ label ∈ ["a".toList], IsLabel isAlphanumeric label :=
    List.forall_mem_singleton.2 (@isLabel_replicate 'a' 1 (by decide) (by decide) (by decide))
  have hlast : IsLastLabel (List.replicate 64 'b') :=
    ⟨by decide, fun c hc => by rw [List.eq_of_mem_replicate hc]; decide⟩
  have hdomain : IsDomain (String.ofList ("a.".toList ++ List.replicate 64 'b')).toList :=
    ⟨_, _, hsplit, by decide, hall, hlast⟩
  have haccepts : Accepts "domain" (.string (.ofList ("a.".toList ++ List.replicate 64 'b'))) :=
    (accepts_domain_iff rfl hascii).2 hdomain
  have hmail := h _ haccepts
  rw [accepts_email_iff (not_isMark_of_domain rfl haccepts) rfl,
    isHost_iff_of_splitOn hsplit hall hlast] at hmail
  exact absurd hmail (by decide)

end Format

end FieldChecks
