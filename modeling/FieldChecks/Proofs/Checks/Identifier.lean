import FieldChecks.Checks.Format
import FieldChecks.Proofs.Checksum.IsbnDetection
import FieldChecks.Proofs.Checksum.Npi
import FieldChecks.Proofs.Number.Integer

/-!
# Identifiers — numbers with a check digit as values

The checks of identifiers look at the text of a value, and those of the
Luhn family at what is left of it without spaces and dashes. The text of
an integer is its decimal digits, and a minus sign in front of them counts
as a dash: where dashes are ignored an integer is judged by its absolute
value, and only the check of provider identifiers asks for its sign
(`integer_identifiers`). Card numbers are judged by their length and
their first bad character, and then by the Luhn check, which strips them
once more and looks for bad characters from the other end. Both accept the
same numbers of a card's length (`creditcard_refines_luhn`).
-/

namespace FieldChecks

/-! ## What is left of a value -/

namespace Luhn

variable {text digits : String} {value : Value}

theorem toList_strip (text : String) : (strip text).toList = withoutSeparators text.toList := by
  rw [strip, String.toList_ofList]

theorem withoutSeparators_idem (cs : List Char) :
    withoutSeparators (withoutSeparators cs) = withoutSeparators cs := by
  simp [withoutSeparators]

/-- Values other than floating-point numbers are normalised by their text. -/
theorem normalize_of_text (hkind : value.kind ≠ .float) (h : value.text = .ok text) :
    normalize value = .ok (strip text) := by
  unfold normalize
  split
  · exact absurd rfl hkind
  · rw [h]
    rfl

/-- Normalising ends with taking the separators away. -/
theorem exists_normalize_eq_map (value : Value) :
    ∃ raw : Except CheckError String, normalize value = raw.map strip := by
  unfold normalize
  split
  · exact ⟨.ok _, rfl⟩
  · exact ⟨_, rfl⟩

/-- What is normalised has no separators left. -/
theorem withoutSeparators_of_normalize (h : normalize value = .ok digits) :
    withoutSeparators digits.toList = digits.toList := by
  obtain ⟨raw, hraw⟩ := exists_normalize_eq_map value
  rw [hraw] at h
  cases raw with
  | error cause => cases h
  | ok text =>
    cases h
    rw [toList_strip, withoutSeparators_idem]

/-- What passes has only digits besides separators. -/
theorem isAsciiDigit_of_check (h : check text = .ok ())
    (hlength : (withoutSeparators text.toList).length ≤ mostDigits) :
    ∀ c ∈ withoutSeparators text.toList, isAsciiDigit c = true := by
  by_contra hnot
  obtain ⟨front, c, back, hd, hc, hback⟩ := exists_last_notDigit hnot
  have hlast : back.length ≤ mostDigits := by
    rw [hd, List.length_append, List.length_cons] at hlength
    omega
  have hcheck : check text = _ := checkOn_of_notDigit .wrapping hd hc hback hlast
  rw [hcheck] at h
  cases h

/-- Every refusal is about the number, none about its kind. -/
theorem check_ne_unsupportedKind (text : String) (kind : Kind) :
    check text ≠ .error (.unsupportedKind kind) := by
  intro h
  unfold check checkOn at h
  simp only [Id.run, pure, bind] at h
  split at h
  · cases h
  · split at h
    · cases h
    · split at h <;> cases h

end Luhn

namespace Format

variable {value other : Value} {text digits : String} {n : Int}

/-! ## Cards -/

/-- The error about a number that is not as long as that of a card. -/
def wrongCardLength (digits : String) : CheckError :=
  .invalid (quoted digits ++ " is not a valid credit card number (wrong length)")

/-- A number has the length of that of a card, counted in bytes. -/
def HasCardLength (digits : String) : Prop :=
  13 ≤ digits.utf8ByteSize ∧ digits.utf8ByteSize ≤ 19

instance (digits : String) : Decidable (HasCardLength digits) :=
  inferInstanceAs (Decidable (13 ≤ digits.utf8ByteSize ∧ digits.utf8ByteSize ≤ 19))

theorem luhn_of_normalize (h : Luhn.normalize value = .ok digits) :
    luhn value = Luhn.check digits := by
  rw [luhn, h, ok_bind]

theorem creditcard_of_wrongLength (h : Luhn.normalize value = .ok digits)
    (hlength : ¬ HasCardLength digits) : creditcard value = .error (wrongCardLength digits) := by
  have hwrong : digits.utf8ByteSize < 13 ∨ 19 < digits.utf8ByteSize := by
    rw [HasCardLength] at hlength
    omega
  rw [creditcard, h, ok_bind, if_pos (by simpa using hwrong)]
  rfl

theorem creditcard_of_length (h : Luhn.normalize value = .ok digits)
    (hlength : HasCardLength digits) :
    creditcard value = match digits.toList.find? (!isAsciiDigit ·) with
      | some c => .error (Luhn.notDigit digits c)
      | none => Luhn.check digits := by
  obtain ⟨hleast, hmost⟩ := hlength
  rw [creditcard, h, ok_bind, if_neg (by simp; omega)]
  rfl

/-- The first character that is no digit is named. -/
theorem creditcard_of_notDigit {front back : List Char} {c : Char}
    (h : Luhn.normalize value = .ok digits) (hlength : HasCardLength digits)
    (hd : digits.toList = front ++ c :: back) (hfront : ∀ b ∈ front, isAsciiDigit b = true)
    (hc : isAsciiDigit c = false) : creditcard value = .error (Luhn.notDigit digits c) := by
  have hfind : digits.toList.find? (!isAsciiDigit ·) = some c := by
    rw [List.find?_eq_some_iff_append]
    exact ⟨by rw [hc]; rfl, front, back, hd, fun b hb => by rw [hfront b hb]; rfl⟩
  rw [creditcard_of_length h hlength, hfind]

theorem creditcard_of_digits (h : Luhn.normalize value = .ok digits)
    (hlength : HasCardLength digits) (hdigits : ∀ c ∈ digits.toList, isAsciiDigit c = true) :
    creditcard value = Luhn.check digits := by
  have hfind : digits.toList.find? (!isAsciiDigit ·) = none := by
    rw [List.find?_eq_none]
    exact fun c hc => by simp [hdigits c hc]
  rw [creditcard_of_length h hlength, hfind]

/-- Where there is a character that is no digit, there is a first one. -/
theorem exists_first_notDigit {cs : List Char} (h : ¬ ∀ c ∈ cs, isAsciiDigit c = true) :
    ∃ front c back, cs = front ++ c :: back ∧ (∀ b ∈ front, isAsciiDigit b = true) ∧
      isAsciiDigit c = false := by
  have hsome : (cs.find? (!isAsciiDigit ·)).isSome := by
    rw [List.find?_isSome]
    simpa using h
  obtain ⟨c, hfind⟩ := Option.isSome_iff_exists.1 hsome
  obtain ⟨hc, front, back, hcs, hfront⟩ := List.find?_eq_some_iff_append.1 hfind
  exact ⟨front, c, back, hcs, by simpa using hfront, by simpa using hc⟩

/-- What passes the Luhn check and is no longer than a card's number has only digits. -/
theorem isAsciiDigit_of_luhn (h : Luhn.normalize value = .ok digits)
    (hlength : HasCardLength digits) (hluhn : Luhn.check digits = .ok ()) :
    ∀ c ∈ digits.toList, isAsciiDigit c = true := by
  have hchars := length_le_utf8ByteSize digits
  have hmost : Luhn.mostDigits = 477218588 := rfl
  have hstripped := Luhn.withoutSeparators_of_normalize h
  have hdigits := Luhn.isAsciiDigit_of_check hluhn
  rw [hstripped] at hdigits
  exact hdigits (by have hle := hlength.2; omega)

/-- **A card number is a Luhn number of the right length.** -/
theorem creditcard_eq_ok_iff (h : Luhn.normalize value = .ok digits) :
    creditcard value = .ok () ↔ luhn value = .ok () ∧ HasCardLength digits := by
  rw [luhn_of_normalize h]
  by_cases hlength : HasCardLength digits
  · by_cases hdigits : ∀ c ∈ digits.toList, isAsciiDigit c = true
    · rw [creditcard_of_digits h hlength hdigits, and_iff_left hlength]
    · -- this check names the first bad character and the Luhn check the last, so both refuse
      obtain ⟨front, c, back, hd, hfront, hc⟩ := exists_first_notDigit hdigits
      rw [creditcard_of_notDigit h hlength hd hfront hc]
      simp only [reduceCtorEq, false_iff]
      exact fun hluhn => hdigits (isAsciiDigit_of_luhn h hlength hluhn.1)
  · rw [creditcard_of_wrongLength h hlength]
    simp [hlength]

theorem creditcard_ne_unsupportedKind (h : Luhn.normalize value = .ok digits) (kind : Kind) :
    creditcard value ≠ .error (.unsupportedKind kind) := by
  by_cases hlength : HasCardLength digits
  · rw [creditcard_of_length h hlength]
    split
    · nofun
    · exact Luhn.check_ne_unsupportedKind digits kind
  · rw [creditcard_of_wrongLength h hlength]
    nofun

/-- A value that cannot be normalised is refused by both checks alike. -/
theorem creditcard_eq_unsupportedKind_iff (kind : Kind) :
    creditcard value = .error (.unsupportedKind kind) ↔
      luhn value = .error (.unsupportedKind kind) := by
  cases h : Luhn.normalize value with
  | error cause => rw [creditcard, luhn, h, error_bind, error_bind]
  | ok digits =>
    rw [luhn_of_normalize h]
    exact iff_of_false (creditcard_ne_unsupportedKind h kind)
      (Luhn.check_ne_unsupportedKind digits kind)

/-- **The card check refines the Luhn check.** It accepts the values that the Luhn check accepts
and whose digits are as many as a card's number has, and has no meaning for the same kinds. A
number of another length is refused for that, whatever its characters, and one of the right length
for its first character that is no digit. -/
theorem creditcard_refines_luhn (value : Value) :
    (creditcard value = .ok () ↔
      luhn value = .ok () ∧ ∃ digits, Luhn.normalize value = .ok digits ∧ HasCardLength digits) ∧
    (∀ kind, creditcard value = .error (.unsupportedKind kind) ↔
      luhn value = .error (.unsupportedKind kind)) ∧
    (∀ digits, Luhn.normalize value = .ok digits → ¬ HasCardLength digits →
      creditcard value = .error (wrongCardLength digits)) ∧
    (∀ digits front c back, Luhn.normalize value = .ok digits → HasCardLength digits →
      digits.toList = front ++ c :: back → (∀ b ∈ front, isAsciiDigit b = true) →
      isAsciiDigit c = false → creditcard value = .error (Luhn.notDigit digits c)) := by
  refine ⟨?_, creditcard_eq_unsupportedKind_iff, fun _ => creditcard_of_wrongLength,
    fun _ _ _ _ => creditcard_of_notDigit⟩
  cases h : Luhn.normalize value with
  | error cause => simp [creditcard, h, error_bind]
  | ok digits => simp [creditcard_eq_ok_iff h]

/-- A card number with separators, one that is too short, and one in which the first of two bad
characters is named. -/
theorem creditcard_refines_luhn_of_cards :
    creditcard (.string "4111-1111 1111-1111") = .ok () ∧
      creditcard (.string "4111 1111 x") = .error (wrongCardLength "41111111x") ∧
      creditcard (.string "4111 1x11 1111 11y1") =
        .error (Luhn.notDigit "41111x11111111y1" 'x') := by
  obtain ⟨haccepted, -⟩ := creditcard_refines_luhn (.string "4111-1111 1111-1111")
  obtain ⟨-, -, hshort, -⟩ := creditcard_refines_luhn (.string "4111 1111 x")
  obtain ⟨-, -, -, hnamed⟩ := creditcard_refines_luhn (.string "4111 1x11 1111 11y1")
  have hcard : Luhn.normalize (.string "4111-1111 1111-1111") = .ok "4111111111111111" := by decide
  have hnumber : Luhn.IsNumber "4111111111111111".toList :=
    ⟨List.all_eq_true.1 (by decide), by decide⟩
  have hluhn : Luhn.check "4111111111111111" = .ok () :=
    (hnumber.check_eq_ok_iff (by decide)).2 (by decide)
  refine ⟨?_, ?_, ?_⟩
  · exact haccepted.2 ⟨(luhn_of_normalize hcard).trans hluhn, _, hcard, by decide⟩
  · exact hshort "41111111x" (by decide) (by decide)
  · exact hnamed "41111x11111111y1" "41111".toList 'x' "11111111y1".toList (by decide)
      (by decide) (by decide) (List.all_eq_true.1 (by decide)) (by decide)

/-! ## Integers -/

/-- The checks of identifiers that are numbers with a check digit. -/
def identifierChecks : List Checker := [luhn, creditcard, isbn, npi]

/-- The integer that a value holds, with a sign or without one. -/
def integer? : Value → Option Int
  | .int n => some n.toInt
  | .uint n => some n.toNat
  | _ => none

theorem text_of_integer (h : integer? value = some n) : value.text = .ok (Integer.text n) := by
  cases value <;> cases h <;> rfl

theorem kind_of_integer (h : integer? value = some n) : value.kind ≠ .float := by
  cases value <;> cases h <;> nofun

theorem isbn_of_text (h : value.text = .ok text) : isbn value = Isbn.check text := by
  rw [isbn, h, ok_bind]

theorem npi_of_text (h : value.text = .ok text) : npi value = Npi.check text := by
  rw [npi, h, ok_bind]

/-- The checks of identifiers look at no more than the text of what is no floating-point number. -/
theorem identifier_eq_of_text {checker : Checker} (hchecker : checker ∈ identifierChecks)
    (hkind : value.kind ≠ .float) (hkind' : other.kind ≠ .float)
    (htext : value.text = .ok text) (htext' : other.text = .ok text) :
    checker value = checker other := by
  have hsame : Luhn.normalize value = Luhn.normalize other := by
    rw [Luhn.normalize_of_text hkind htext, Luhn.normalize_of_text hkind' htext']
  simp only [identifierChecks, List.mem_cons, List.not_mem_nil, or_false] at hchecker
  rcases hchecker with rfl | rfl | rfl | rfl
  · rw [luhn, luhn, hsame]
  · rw [creditcard, creditcard, hsame]
  · rw [isbn_of_text htext, isbn_of_text htext']
  · rw [npi_of_text htext, npi_of_text htext']

/-- A minus sign is stripped like any other dash. -/
theorem normalize_of_integer (h : integer? value = some n) :
    Luhn.normalize value = Luhn.normalize (.string n.natAbs.repr) := by
  rw [Luhn.normalize_of_text (kind_of_integer h) (text_of_integer h),
    Luhn.normalize_of_text (by exact nofun) rfl, Luhn.strip, Luhn.strip, Luhn.withoutSeparators,
    Luhn.withoutSeparators, Integer.filter_text rfl]

theorem isbn_of_integer (h : integer? value = some n) :
    isbn value = .ok () ↔ isbn (.string n.natAbs.repr) = .ok () := by
  rw [isbn_of_text (text_of_integer h), isbn_of_text rfl]
  exact Isbn.check_ok_congr (Integer.filter_text rfl n)

/-- **The check of provider identifiers asks for the sign**: a minus sign is no digit. -/
theorem nonneg_of_npi (h : integer? value = some n) (hok : npi value = .ok ()) : 0 ≤ n := by
  rw [npi_of_text (text_of_integer h), Npi.check_eq_ok_iff] at hok
  by_contra hneg
  have hdigits := hok.digits
  rw [Integer.toList_text_of_neg (by omega)] at hdigits
  cases hdigits '-' List.mem_cons_self

/-- **Identifiers that are integers.** The checks that ignore dashes ignore the sign: the Luhn and
card checks answer as on the digits of the absolute value given as a text, and the ISBN check
accepts the same integers as texts of their digits. The check of provider identifiers accepts no
negative integer. So what any of them accepts has accepted digits, and an integer that is not
negative gets one answer, as an integer of either view and as a text. -/
theorem integer_identifiers (h : integer? value = some n) :
    (∀ checker ∈ identifierChecks,
      checker value = .ok () → checker (.string n.natAbs.repr) = .ok ()) ∧
    (npi value = .ok () → 0 ≤ n) ∧
    luhn value = luhn (.string n.natAbs.repr) ∧
    creditcard value = creditcard (.string n.natAbs.repr) ∧
    (isbn value = .ok () ↔ isbn (.string n.natAbs.repr) = .ok ()) ∧
    (0 ≤ n → ∀ checker ∈ identifierChecks,
      checker value = checker (.string n.natAbs.repr) ∧
        ∀ other, integer? other = some n → checker value = checker other) := by
  have hluhn : luhn value = luhn (.string n.natAbs.repr) := by
    rw [luhn, luhn, normalize_of_integer h]
  have hcard : creditcard value = creditcard (.string n.natAbs.repr) := by
    rw [creditcard, creditcard, normalize_of_integer h]
  have hsame : 0 ≤ n → ∀ checker ∈ identifierChecks,
      checker value = checker (.string n.natAbs.repr) := by
    intro hn checker hchecker
    have htext := text_of_integer h
    rw [Integer.text_of_nonneg hn] at htext
    exact identifier_eq_of_text hchecker (kind_of_integer h) nofun htext rfl
  refine ⟨?_, nonneg_of_npi h, hluhn, hcard, isbn_of_integer h, fun hn checker hchecker =>
    ⟨hsame hn checker hchecker, fun other hother => ?_⟩⟩
  · intro checker hchecker hok
    simp only [identifierChecks, List.mem_cons, List.not_mem_nil, or_false] at hchecker
    rcases hchecker with rfl | rfl | rfl | rfl
    · rwa [← hluhn]
    · rwa [← hcard]
    · exact (isbn_of_integer h).1 hok
    · rwa [← hsame (nonneg_of_npi h hok) npi (by simp [identifierChecks])]
  · exact identifier_eq_of_text hchecker (kind_of_integer h) (kind_of_integer hother)
      (text_of_integer h) (text_of_integer hother)

/-- The same identifier as a signed and as an unsigned integer. -/
theorem integer_identifiers_of_provider :
    npi (.int 1234567893) = npi (.string "1234567893") ∧
      npi (.int 1234567893) = npi (.uint 1234567893) ∧
      luhn (.int (-18)) = luhn (.string "18") := by
  have hvalue : integer? (.int 1234567893) = some 1234567893 := rfl
  have hnegative : integer? (.int (-18)) = some (-18) := rfl
  obtain ⟨-, -, -, -, -, hviews⟩ := integer_identifiers hvalue
  obtain ⟨-, -, hluhn, -⟩ := integer_identifiers hnegative
  obtain ⟨htext, hother⟩ := hviews (by decide) npi (by simp [identifierChecks])
  exact ⟨htext, hother _ rfl, hluhn⟩

/-- **Three of the checks accept negative integers**: a Luhn number, a card number and an ISBN
with a minus sign in front. -/
theorem not_nonneg_of_accepted :
    (¬ ∀ n : Int64, luhn (.int n) = .ok () → 0 ≤ n.toInt) ∧
      (¬ ∀ n : Int64, creditcard (.int n) = .ok () → 0 ≤ n.toInt) ∧
      ¬ ∀ n : Int64, isbn (.int n) = .ok () → 0 ≤ n.toInt := by
  refine ⟨fun h => ?_, fun h => ?_, fun h => ?_⟩
  · have hnormal : Luhn.normalize (.int (-18)) = .ok "18" := by decide
    have hnumber : Luhn.IsNumber "18".toList := ⟨List.all_eq_true.1 (by decide), by decide⟩
    have hok : luhn (.int (-18)) = .ok () := by
      rw [luhn_of_normalize hnormal, hnumber.check_eq_ok_iff (by decide)]
      decide
    exact absurd (h _ hok) (by decide)
  · have hnormal : Luhn.normalize (.int (-4111111111111111)) = .ok "4111111111111111" := by decide
    have hnumber : Luhn.IsNumber "4111111111111111".toList :=
      ⟨List.all_eq_true.1 (by decide), by decide⟩
    have hok : creditcard (.int (-4111111111111111)) = .ok () := by
      rw [creditcard_of_digits hnormal (by decide) hnumber.digits,
        hnumber.check_eq_ok_iff (by decide)]
      decide
    exact absurd (h _ hok) (by decide)
  · have htext : Value.text (.int (-9783161484100)) = .ok "-9783161484100" := by decide
    have hchars : Isbn.readChars (Isbn.withoutDashes "-9783161484100") = "9783161484100".toList := by
      decide
    have hok : isbn (.int (-9783161484100)) = .ok () := by
      rw [isbn_of_text htext, Isbn.check_eq_ok_iff, hchars]
      exact .inr ⟨rfl, List.all_eq_true.1 (by decide), by decide⟩
    exact absurd (h _ hok) (by decide)

end Format

end FieldChecks
