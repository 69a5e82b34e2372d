import FieldChecks.Checks.Catalog
import FieldChecks.Proofs.Checks.MailAddress
import FieldChecks.Proofs.Pattern.Language
import FieldChecks.Proofs.Text.Digits

/-!
# Alphabets of formats — which characters get through

Letters, digits, hexadecimal numbers and the like are formats of ASCII
characters, but their patterns do not all say so. A pattern that ignores
letter case takes the two characters beyond ASCII that fold to ASCII
letters, the long s and the Kelvin sign; and a digit is a digit of any
script. The rest is as narrow as it looks. This file says for each format
what gets through besides ASCII (`alphabet_of_format`), and that something
does (`numeric_not_ascii`).
-/

namespace FieldChecks

/-! ## Characters of a set -/

namespace RangeTable

theorem exists_range_of_contains {table : RangeTable} {c : Char} (h : table.contains c = true) :
    ∃ range ∈ table.ranges, range.1 ≤ c.toNat ∧ c.toNat ≤ range.2 := by
  obtain ⟨ranges⟩ := table
  simp only [contains] at h ⊢
  induction ranges with
  | nil => cases h
  | cons range ranges ih =>
    obtain ⟨first, last⟩ := range
    rw [holds] at h
    split at h
    · cases h
    · rename_i hfirst
      rcases Bool.or_eq_true_iff.1 h with hlast | hmore
      · exact ⟨_, List.mem_cons_self, Nat.le_of_not_lt hfirst, of_decide_eq_true hlast⟩
      · obtain ⟨range, hrange, hc⟩ := ih hmore
        exact ⟨range, List.mem_cons_of_mem _ hrange, hc⟩

/-- The set has ASCII characters and some others, or is the set of the others. -/
def isAsciiBut (strays table : RangeTable) : Bool :=
  table == strays || table.ranges.all fun range =>
    range.2 < 128 || range.1 == range.2 && strays.contains (Char.ofNat range.1)

theorem ascii_or_of_isAsciiBut {strays table : RangeTable} {c : Char}
    (h : isAsciiBut strays table = true) (hc : table.contains c = true) :
    c.toNat < 128 ∨ strays.contains c = true := by
  rcases Bool.or_eq_true_iff.1 h with hsame | hall
  · obtain rfl := beq_iff_eq.1 hsame
    exact .inr hc
  · obtain ⟨range, hrange, hfirst, hlast⟩ := exists_range_of_contains hc
    rcases Bool.or_eq_true_iff.1 (List.all_eq_true.1 hall range hrange) with hlow | hstray
    · exact .inl (Nat.lt_of_le_of_lt hlast (of_decide_eq_true hlow))
    · obtain ⟨hsame, hstray⟩ := Bool.and_eq_true_iff.1 hstray
      have heq : range.1 = c.toNat :=
        Nat.le_antisymm hfirst (beq_iff_eq.1 hsame ▸ hlast)
      rw [heq, Char.ofNat_toNat] at hstray
      exact .inr hstray

end RangeTable

/-! ## Patterns -/

namespace Pattern

/-- The pattern takes texts as a whole, and names sets of ASCII characters and of some others
only. -/
def isAsciiBut (strays : RangeTable) (pattern : String) : Bool :=
  match read pattern with
  | .ok regex => regex.startsText && regex.endsText && regex.sets.all (RangeTable.isAsciiBut strays)
  | .error _ => false

variable {pattern : String} {value : Value} {text : String}

/-- Whether a pattern can be read as an expression is decided by what it is read as. -/
theorem read_eq_ok_of_toOption {regex : Regex} (h : (read pattern).toOption = some regex) :
    read pattern = .ok regex := by
  cases hread : read pattern with
  | error fault => simp [hread, Except.toOption] at h
  | ok found => simpa [hread, Except.toOption] using h

/-- **A value is accepted** if the pattern can be read and its text matches. -/
theorem fixed_eq_ok_iff (htext : value.text = .ok text) :
    fixed pattern value = .ok () ↔ ∃ regex, read pattern = .ok regex ∧
      regex.matchesIn text = true := by
  cases h : read pattern with
  | error fault => simp [fixed, checker, h]
  | ok regex => simp [fixed, checker, h, matchCheck_eq_ok_iff htext]

theorem fixed_eq_ok_iff_of_read {regex : Regex} (hread : read pattern = .ok regex)
    (htext : value.text = .ok text) :
    fixed pattern value = .ok () ↔ regex.matchesIn text = true := by
  rw [fixed_eq_ok_iff htext]
  constructor
  · rintro ⟨found, hfound, hmatch⟩
    rw [hread] at hfound
    obtain rfl := Except.ok.inj hfound
    exact hmatch
  · exact fun hmatch => ⟨regex, hread, hmatch⟩

/-- What a pattern of such sets matches has no other characters. -/
theorem ascii_or_of_matchesIn {strays : RangeTable} (h : isAsciiBut strays pattern = true)
    {regex : Regex} (hread : read pattern = .ok regex) (hmatch : regex.matchesIn text = true) :
    ∀ c ∈ text.toList, c.toNat < 128 ∨ strays.contains c = true := by
  simp only [isAsciiBut, hread, Bool.and_eq_true, List.all_eq_true] at h
  obtain ⟨⟨hstart, hend⟩, hsets⟩ := h
  intro c hc
  have hmatches := (Regex.matchesIn_iff_matches hstart hend).1 hmatch
  obtain ⟨set, hset, hcontains⟩ := hmatches.exists_set c hc
  exact RangeTable.ascii_or_of_isAsciiBut (hsets set hset) hcontains

/-- The texts of the characters of a set. -/
def allOf (set : RangeTable) : Regex :=
  .sequence (.here .textStart) (.sequence (.repetition 0 none (.one set)) (.here .textEnd))

theorem matchesIn_allOf_iff {set : RangeTable} :
    (allOf set).matchesIn text = true ↔ ∀ c ∈ text.toList, set.contains c = true := by
  have hlanguage : (allOf set).language = (Regex.repetition 0 none (.one set)).language := by
    simp only [allOf, Regex.language_sequence, Regex.language_here, one_mul, mul_one]
  rw [Regex.matchesIn_iff_mem_language rfl, hlanguage, mem_language_repetition_one_iff]
  exact and_iff_right ⟨Nat.zero_le _, nofun⟩

/-- A pattern of the characters of a set accepts what has no others. -/
theorem fixed_eq_ok_iff_of_allOf {set : RangeTable} (hread : read pattern = .ok (allOf set))
    (htext : value.text = .ok text) :
    fixed pattern value = .ok () ↔ ∀ c ∈ text.toList, set.contains c = true := by
  rw [fixed_eq_ok_iff_of_read hread htext, matchesIn_allOf_iff]

end Pattern

/-! ## Formats -/

namespace Format

/-- The characters beyond ASCII that fold to ASCII letters: the long s and the Kelvin sign. -/
def foldedLetters : RangeTable :=
  .ofCodePoints [0x17f, 0x212a]

/-- The formats of ASCII characters that have patterns: their names, the patterns, and the
characters beyond ASCII that get through. -/
def narrowFormats : List (String × String × RangeTable) := [
  ("uuid", uuidPattern, .empty),
  ("mongoid", mongoidPattern, .empty),
  ("hexadecimal", hexadecimalPattern, .empty),
  ("alpha", alphaPattern, foldedLetters),
  ("alphanum", alphanumPattern, foldedLetters),
  ("base64", base64Pattern, foldedLetters),
  ("domain", domainPattern, foldedLetters),
  ("numeric", numericPattern, Pattern.digits),
  ("ssn", ssnPattern, Pattern.digits),
  ("rgb", rgbPattern, Pattern.digits),
  ("rgba", rgbaPattern, Pattern.digits)]

theorem narrowFormats_isAsciiBut :
    ∀ format ∈ narrowFormats, Pattern.isAsciiBut format.2.2 format.2.1 = true := by
  decide +kernel

theorem narrowFormats_builtIn :
    ∀ format ∈ narrowFormats, builtInCheckers.lookup format.1 = some (Pattern.fixed format.2.1) := by
  simp only [narrowFormats, List.forall_mem_cons]
  exact ⟨rfl, rfl, rfl, rfl, rfl, rfl, rfl, rfl, rfl, rfl, rfl, nofun⟩

/-- A mail address is of ASCII characters. -/
theorem emailPattern_isAsciiBut : Pattern.isAsciiBut .empty emailPattern = true := by
  decide +kernel

/-- The characters of the two formats of letters, as their patterns take them. -/
def letters : RangeTable :=
  .ofRanges [(0x41, 0x5a), (0x61, 0x7a), (0x17f, 0x17f), (0x212a, 0x212a)]

def lettersAndDigits : RangeTable :=
  letters.union (.between '0' '9')

theorem read_numericPattern : Pattern.read numericPattern = .ok (Pattern.allOf Pattern.digits) :=
  Pattern.read_eq_ok_of_toOption (by decide +kernel)

theorem read_alphaPattern : Pattern.read alphaPattern = .ok (Pattern.allOf letters) :=
  Pattern.read_eq_ok_of_toOption (by decide +kernel)

theorem read_alphanumPattern :
    Pattern.read alphanumPattern = .ok (Pattern.allOf lettersAndDigits) :=
  Pattern.read_eq_ok_of_toOption (by decide +kernel)

variable {value : Value} {text : String}

theorem firstFrom_eq_none_iff {found : Char → Bool} {bytes : Nat} {cs : List Char} :
    firstFrom found bytes cs = none ↔ ∀ c ∈ cs, found c = false := by
  induction cs generalizing bytes with
  | nil => simp [firstFrom]
  | cons c cs ih => cases h : found c <;> simp [firstFrom, h, ih]

/-- The check for ASCII is about every character. -/
theorem ascii_eq_ok_iff (htext : value.text = .ok text) :
    ascii value = .ok () ↔ ∀ c ∈ text.toList, c.toNat < 128 := by
  have hnone := @firstFrom_eq_none_iff (fun c => 128 ≤ c.toNat) 0 text.toList
  simp only [decide_eq_false_iff_not, Nat.not_le] at hnone
  rw [← hnone]
  cases h : firstFrom (fun c => 128 ≤ c.toNat) 0 text.toList <;>
    simp [ascii, withoutChars, htext, h, bind, Except.bind]

/-- A digit beyond ASCII aside, a digit is one of the characters of the wider format. -/
theorem lettersAndDigits_of_digits : ∀ c : Char, c.toNat < 128 →
    Pattern.digits.contains c = true → lettersAndDigits.contains c = true :=
  forall_ascii (by decide +kernel)

/-- The folded letters are beyond ASCII. -/
theorem foldedLetters_of_ascii :
    ∀ c : Char, c.toNat < 128 → foldedLetters.contains c = false :=
  forall_ascii (by decide)

/-! ## Built-in checkers by name -/

/-- The built-in checker of a name accepts a value. -/
def Accepts (name : String) (value : Value) : Prop :=
  ∃ checker, builtInCheckers.lookup name = some checker ∧ checker value = .ok ()

theorem accepts_iff {name : String} {checker : Checker}
    (h : builtInCheckers.lookup name = some checker) :
    Accepts name value ↔ checker value = .ok () := by
  constructor
  · rintro ⟨found, hfound, haccepts⟩
    rw [h] at hfound
    obtain rfl := Option.some.inj hfound
    exact haccepts
  · exact fun haccepts => ⟨checker, h, haccepts⟩

/-- **What gets through a format** besides ASCII are the characters listed for it. -/
theorem ascii_or_stray {format : String × String × RangeTable} (hformat : format ∈ narrowFormats)
    (htext : value.text = .ok text) (h : Accepts format.1 value) :
    ∀ c ∈ text.toList, c.toNat < 128 ∨ format.2.2.contains c = true := by
  rw [accepts_iff (narrowFormats_builtIn format hformat), Pattern.fixed_eq_ok_iff htext] at h
  obtain ⟨regex, hread, hmatch⟩ := h
  exact Pattern.ascii_or_of_matchesIn (narrowFormats_isAsciiBut format hformat) hread hmatch

theorem exists_of_isMailAddress {address : String} (h : isMailAddress address = true) :
    ∃ regex, Pattern.read emailPattern = .ok regex ∧ regex.matchesIn address = true := by
  unfold isMailAddress at h
  generalize Pattern.read emailPattern = found at h ⊢
  cases found with
  | ok regex => exact ⟨regex, rfl, h⟩
  | error fault => cases h

/-- Nothing gets through the format of mail addresses. -/
theorem ascii_of_email (htext : value.text = .ok text) (h : Accepts "email" value) :
    ∀ c ∈ (mailAddress text).toList, c.toNat < 128 := by
  have haddress : isMailAddress (mailAddress text) = true := by
    rw [@accepts_iff _ _ email rfl, email_eq_ok_iff] at h
    obtain ⟨found, hfound, h⟩ := h
    rw [htext] at hfound
    obtain rfl := Except.ok.inj hfound
    exact h
  obtain ⟨regex, hread, hmatch⟩ := exists_of_isMailAddress haddress
  intro c hc
  rcases Pattern.ascii_or_of_matchesIn emailPattern_isAsciiBut hread hmatch c hc with h | h
  · exact h
  · cases h

/-- **The formats of ASCII characters** let nothing else through but the characters listed for
them, and mail addresses not even those. ASCII digits are accepted as letters and digits, and
letters, with digits or without, are ASCII if and only if none of them is a folded one. -/
theorem alphabet_of_format {value : Value} {text : String} (htext : value.text = .ok text) :
    (∀ format ∈ narrowFormats, Accepts format.1 value →
      ∀ c ∈ text.toList, c.toNat < 128 ∨ format.2.2.contains c = true) ∧
    (Accepts "email" value → ∀ c ∈ (mailAddress text).toList, c.toNat < 128) ∧
    (Accepts "numeric" value → (∀ c ∈ text.toList, c.toNat < 128) → Accepts "alphanum" value) ∧
    (Accepts "alpha" value ∨ Accepts "alphanum" value →
      (Accepts "ascii" value ↔ ∀ c ∈ text.toList, foldedLetters.contains c = false)) := by
  have hascii : Accepts "ascii" value ↔ ∀ c ∈ text.toList, c.toNat < 128 :=
    (accepts_iff rfl).trans (ascii_eq_ok_iff htext)
  have hnumeric : Accepts "numeric" value ↔ _ :=
    (accepts_iff rfl).trans (Pattern.fixed_eq_ok_iff_of_allOf read_numericPattern htext)
  have halphanum : Accepts "alphanum" value ↔ _ :=
    (accepts_iff rfl).trans (Pattern.fixed_eq_ok_iff_of_allOf read_alphanumPattern htext)
  have hletters : Accepts "alpha" value ∨ Accepts "alphanum" value →
      ∀ c ∈ text.toList, c.toNat < 128 ∨ foldedLetters.contains c = true := by
    have halpha : ("alpha", alphaPattern, foldedLetters) ∈ narrowFormats :=
      .tail _ (.tail _ (.tail _ (.head _)))
    rintro (h | h)
    · exact ascii_or_stray halpha htext h
    · have halphanum : ("alphanum", alphanumPattern, foldedLetters) ∈ narrowFormats :=
        .tail _ (.tail _ (.tail _ (.tail _ (.head _))))
      exact ascii_or_stray halphanum htext h
  refine ⟨fun format hformat => ascii_or_stray hformat htext, ascii_of_email htext,
    fun h hall => ?_, fun h => ?_⟩
  -- Both of these patterns are of one set of characters, so they are compared set by set.
  · rw [halphanum]
    exact fun c hc => lettersAndDigits_of_digits c (hall c hc) (hnumeric.1 h c hc)
  · rw [hascii]
    constructor
    · exact fun hall c hc => foldedLetters_of_ascii c (hall c hc)
    · intro hnone c hc
      exact (hletters h c hc).resolve_right (by simp [hnone c hc])

theorem alphabet_of_format_of_seven :
    Value.text (.string "7") = .ok "7" ∧ Accepts "numeric" (.string "7") ∧
      (∀ c ∈ "7".toList, c.toNat < 128 ∨ Pattern.digits.contains c = true) ∧
      Accepts "alphanum" (.string "7") ∧ Accepts "ascii" (.string "7") := by
  have hseven : "7".toList = ['7'] := by decide
  have haccepts : Accepts "numeric" (.string "7") := by
    rw [accepts_iff rfl, Pattern.fixed_eq_ok_iff_of_allOf read_numericPattern rfl, hseven,
      List.forall_mem_singleton]
    decide
  have hnumeric : ("numeric", numericPattern, Pattern.digits) ∈ narrowFormats :=
    List.mem_of_getElem? (by rfl : narrowFormats[7]? = some _)
  obtain ⟨hstrays, -, hdigits, hletters⟩ := @alphabet_of_format (.string "7") "7" rfl
  have halphanum := hdigits haccepts (by simp [hseven])
  refine ⟨rfl, haccepts, hstrays _ hnumeric haccepts, halphanum, (hletters (.inr halphanum)).2 ?_⟩
  rw [hseven, List.forall_mem_singleton]
  decide

/-- **Formats of ASCII characters take others**: a digit of another script is a number and no
letter or digit, and a long s is a letter and no ASCII. -/
theorem numeric_not_ascii :
    (Accepts "numeric" (.string "٣") ∧ ¬ Accepts "alphanum" (.string "٣")) ∧
      Accepts "alpha" (.string "ſ") ∧ ¬ Accepts "ascii" (.string "ſ") := by
  have hdigit : "٣".toList = ['٣'] := by decide
  have hlong : "ſ".toList = ['ſ'] := by decide
  refine ⟨⟨?_, ?_⟩, ?_, ?_⟩
  · rw [accepts_iff rfl, Pattern.fixed_eq_ok_iff_of_allOf read_numericPattern rfl, hdigit,
      List.forall_mem_singleton]
    decide
  · rw [accepts_iff rfl, Pattern.fixed_eq_ok_iff_of_allOf read_alphanumPattern rfl, hdigit,
      List.forall_mem_singleton]
    decide
  · rw [accepts_iff rfl, Pattern.fixed_eq_ok_iff_of_allOf read_alphaPattern rfl, hlong,
      List.forall_mem_singleton]
    decide
  · rw [accepts_iff rfl, ascii_eq_ok_iff rfl, hlong, List.forall_mem_singleton]
    decide

end Format

end FieldChecks
