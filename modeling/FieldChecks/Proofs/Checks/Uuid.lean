import FieldChecks.Proofs.Checks.Alphabet
import Mathlib.Algebra.GroupWithZero.Nat

/-!
# UUIDs — thirty-two digits in five groups

The pattern of UUIDs takes five groups of hexadecimal digits, and behind
each but the last it takes a hyphen or none. The lengths of the groups are
data here: whatever they are, the words of the language are digits with
hyphens put in (`mem_language_groups_iff`). A hyphen is no digit, so the
digits of a text are still to be seen in it, and that they end the text
keeps its beginnings from being UUIDs themselves (`uuid_exact`).
-/

namespace FieldChecks.Format

open Pattern (Regex charOf)

variable {p : Char → Bool} {cs digits : List Char} {lengths : List Nat} {hyphens : List Bool}

/-! ## Digits with hyphens -/

/-- Digits with hyphens put in: every group is given by its length and by whether a hyphen stands
behind it, and the digits that are left are the last group. -/
def hyphenated : List (Nat × Bool) → List Char → List Char
  | [], digits => digits
  | (length, hyphen) :: groups, digits =>
    digits.take length ++
      (List.replicate hyphen.toNat '-' ++ hyphenated groups (digits.drop length))

/-- The lengths of the groups of a UUID, but for the last one. -/
def uuidGroups : List Nat := [8, 4, 4, 4]

/-- **A UUID**: thirty-two hexadecimal digits of either case, with a hyphen or none behind the
first eight and behind each four that follow, up to the last twelve. -/
def IsUuid (cs : List Char) : Prop :=
  ∃ digits hyphens, digits.length = 32 ∧ (∀ c ∈ digits, isHexDigit c = true) ∧
    hyphens.length = uuidGroups.length ∧ cs = hyphenated (uuidGroups.zip hyphens) digits

/-- The digits are still to be seen in the text. -/
theorem filter_hyphenated {groups : List (Nat × Bool)} (hhyphen : p '-' = false)
    (hall : ∀ c ∈ digits, p c = true) : (hyphenated groups digits).filter p = digits := by
  induction groups generalizing digits with
  | nil => exact List.filter_eq_self.2 hall
  | cons group groups ih =>
    obtain ⟨length, hyphen⟩ := group
    have hfront : (digits.take length).filter p = digits.take length :=
      List.filter_eq_self.2 fun c hc => hall c (List.mem_of_mem_take hc)
    have hback := @ih (digits.drop length) fun c hc => hall c (List.mem_of_mem_drop hc)
    rw [hyphenated, List.filter_append, List.filter_append, hfront, hback,
      List.filter_replicate_of_neg (by simp [hhyphen]), List.nil_append, List.take_append_drop]

/-- If there are digits for a last group, the text ends with one of them. -/
theorem getLast?_hyphenated {groups : List (Nat × Bool)}
    (hmore : (groups.map Prod.fst).sum < digits.length) :
    (hyphenated groups digits).getLast? = digits.getLast? := by
  induction groups generalizing digits with
  | nil => rfl
  | cons group groups ih =>
    obtain ⟨length, hyphen⟩ := group
    rw [List.map_cons, List.sum_cons] at hmore
    have hback := @ih (digits.drop length) (by rw [List.length_drop]; omega)
    have hlast : (digits.drop length).getLast? = digits.getLast? := by
      rw [List.getLast?_drop, if_neg (by omega)]
    have hne : digits ≠ [] := List.ne_nil_of_length_pos (by omega)
    rw [hyphenated, List.getLast?_append, List.getLast?_append, hback, hlast,
      List.getLast?_eq_some_getLast hne]
    rfl

/-- **No beginning of a UUID is one**: it would have as many digits, but the last one is missing. -/
theorem IsUuid.not_of_prefix {front : List Char} (h : IsUuid cs) (hbegins : front <+: cs)
    (hne : front ≠ cs) : ¬ IsUuid front := by
  rintro ⟨others, otherHyphens, hothers, hothersHex, -, rfl⟩
  obtain ⟨digits, hyphens, hlength, hhex, hhyphens, rfl⟩ := h
  obtain ⟨back, hback⟩ := hbegins
  have hsum : ((uuidGroups.zip hyphens).map Prod.fst).sum < digits.length := by
    rw [List.map_fst_zip (by rw [hhyphens]), hlength]
    decide
  have hfilter : others ++ back.filter isHexDigit = digits := by
    have hwhole := @filter_hyphenated _ _ (uuidGroups.zip hyphens) (by decide) hhex
    rwa [← hback, List.filter_append, filter_hyphenated (by decide) hothersHex] at hwhole
  have hnone : back.filter isHexDigit = [] := by
    have hcount := congrArg List.length hfilter
    rw [List.length_append, hothers, hlength] at hcount
    exact List.eq_nil_of_length_eq_zero (by omega)
  have hbackNe : back ≠ [] := by
    rintro rfl
    exact hne (by rw [← hback, List.append_nil])
  -- the last character behind the beginning is the last digit of all
  have hlast : back.getLast hbackNe ∈ digits.getLast? := by
    rw [← getLast?_hyphenated hsum, ← hback, List.getLast?_append_of_ne_nil _ hbackNe]
    exact List.getLast_mem_getLast? hbackNe
  have hdigit := hhex _ (List.mem_of_getLast? hlast)
  have hmem := List.mem_filter.2 ⟨List.getLast_mem hbackNe, hdigit⟩
  rw [hnone] at hmem
  exact List.not_mem_nil hmem

/-! ## The expression -/

/-- The hexadecimal digits of either case. -/
def hexDigitChars : RangeTable :=
  .ofRanges [(0x30, 0x39), (0x41, 0x46), (0x61, 0x66)]

theorem contains_hexDigitChars : hexDigitChars.contains = isHexDigit := by
  funext c
  by_cases hascii : c.toNat < 128
  · exact @forall_ascii (fun c => hexDigitChars.contains c = isHexDigit c) (by decide) c hascii
  · have hnot : hexDigitChars.contains c ≠ true := fun h =>
      (@RangeTable.ascii_or_of_isAsciiBut .empty _ _ (by decide) h).elim hascii nofun
    rw [Bool.eq_false_of_not_eq_true hnot,
      Bool.eq_false_of_not_eq_true fun h => hascii (ascii_of_isHexDigit h)]

/-- Groups of digits, each with a hyphen or none behind it. -/
def groupRegexes (lengths : List Nat) : List Regex :=
  lengths.flatMap fun length =>
    [.repetition length (some length) (.one hexDigitChars),
      .repetition 0 (some 1) (.one (.between '-' '-'))]

/-- What is read as the pattern of UUIDs. -/
def uuidRegex : Regex :=
  .sequences ([.here .textStart] ++ groupRegexes uuidGroups ++
    [.repetition 12 (some 12) (.one hexDigitChars), .here .textEnd])

theorem read_uuidPattern : Pattern.read uuidPattern = .ok uuidRegex :=
  Pattern.read_eq_ok_of_toOption (by decide +kernel)

/-- One hyphen or none. -/
theorem mem_hyphen_iff :
    cs ∈ 1 + charOf (· == '-') ↔ ∃ hyphen : Bool, cs = List.replicate hyphen.toNat '-' := by
  rw [Language.mem_add, Language.mem_one, Pattern.mem_charOf_iff, Bool.exists_bool]
  exact Iff.rfl

/-- **Groups of digits**, whatever their lengths, and a last one: that is as many digits as they
have together, with hyphens put in. -/
theorem mem_language_groups_iff {last : Nat} :
    cs ∈ ((groupRegexes lengths).map Regex.language).prod * charOf isHexDigit ^ last ↔
      ∃ digits hyphens, digits.length = lengths.sum + last ∧
        (∀ c ∈ digits, isHexDigit c = true) ∧ hyphens.length = lengths.length ∧
        cs = hyphenated (lengths.zip hyphens) digits := by
  induction lengths generalizing cs with
  | nil =>
    rw [groupRegexes, List.flatMap_nil, List.map_nil, List.prod_nil, one_mul,
      Pattern.mem_pow_charOf_iff, List.sum_nil, Nat.zero_add]
    constructor
    · rintro ⟨hlength, hall⟩
      exact ⟨cs, [], hlength, hall, rfl, rfl⟩
    · rintro ⟨digits, hyphens, hlength, hall, -, rfl⟩
      exact ⟨hlength, hall⟩
  | cons length lengths ih =>
    have hcons : ((groupRegexes (length :: lengths)).map Regex.language).prod =
        charOf isHexDigit ^ length * ((1 + charOf (· == '-')) *
          ((groupRegexes lengths).map Regex.language).prod) := by
      rw [groupRegexes, List.flatMap_cons, List.map_append, List.prod_append, List.map_cons,
        List.prod_cons, List.map_singleton, List.prod_singleton, Regex.language_exactly,
        Regex.language_optional, Regex.language_one, Regex.language_one, contains_hexDigitChars,
        RangeTable.contains_between, mul_assoc, groupRegexes]
    rw [hcons, mul_assoc, mul_assoc, Language.mem_mul, List.sum_cons]
    constructor
    · rintro ⟨front, hfront, _, hrest, rfl⟩
      obtain ⟨_, hhyphen, _, hback, rfl⟩ := Language.mem_mul.1 hrest
      obtain ⟨hyphen, rfl⟩ := mem_hyphen_iff.1 hhyphen
      obtain ⟨rfl, hfrontHex⟩ := Pattern.mem_pow_charOf_iff.1 hfront
      obtain ⟨back, hyphens, hlength, hbackHex, hhyphens, rfl⟩ := ih.1 hback
      refine ⟨front ++ back, hyphen :: hyphens, ?_, List.forall_mem_append.2 ⟨hfrontHex, hbackHex⟩,
        by rw [List.length_cons, List.length_cons, hhyphens], ?_⟩
      · rw [List.length_append, hlength, Nat.add_assoc]
      · rw [List.zip_cons_cons, hyphenated, List.take_left, List.drop_left]
    · rintro ⟨digits, _ | ⟨hyphen, hyphens⟩, hlength, hall, hhyphens, rfl⟩
      · cases hhyphens
      have hfront : digits.take length ∈ charOf isHexDigit ^ length := by
        refine Pattern.mem_pow_charOf_iff.2 ⟨?_, fun c hc => hall c (List.mem_of_mem_take hc)⟩
        rw [List.length_take]
        omega
      have hback := ih.2 ⟨digits.drop length, hyphens, by rw [List.length_drop]; omega,
        fun c hc => hall c (List.mem_of_mem_drop hc), Nat.succ.inj hhyphens, rfl⟩
      exact ⟨_, hfront, _, Language.append_mem_mul (mem_hyphen_iff.2 ⟨hyphen, rfl⟩) hback, rfl⟩

theorem mem_language_uuidRegex_iff : cs ∈ uuidRegex.language ↔ IsUuid cs := by
  have hlanguage : uuidRegex.language =
      ((groupRegexes uuidGroups).map Regex.language).prod * charOf isHexDigit ^ 12 := by
    rw [uuidRegex, Regex.language_sequences, List.map_append, List.map_append, List.prod_append,
      List.prod_append, List.map_singleton, List.prod_singleton, List.map_cons, List.prod_cons,
      List.map_singleton, List.prod_singleton, Regex.language_here, Regex.language_here,
      Regex.language_exactly, Regex.language_one, contains_hexDigitChars, one_mul, mul_one]
  rw [hlanguage, mem_language_groups_iff]
  exact Iff.rfl

theorem accepts_uuid_iff {value : Value} {text : String} (htext : value.text = .ok text) :
    Accepts "uuid" value ↔ IsUuid text.toList := by
  rw [accepts_iff rfl, Pattern.fixed_eq_ok_iff_of_read read_uuidPattern htext,
    Regex.matchesIn_iff_mem_language (by decide), mem_language_uuidRegex_iff]

/-! ## Numbers of 128 bits -/

/-- The digits of a number of 128 bits, in lower or upper case. -/
def uuidDigits (upper : Bool) (n : BitVec 128) : List Char :=
  let digits := (hexDigits n.toNat).leftpad 32 '0'
  if upper then digits.map Char.toUpper else digits

/-- **A number of 128 bits as a UUID**, in lower or upper case, with all hyphens or with none. -/
def uuidChars (upper hyphen : Bool) (n : BitVec 128) : List Char :=
  hyphenated (uuidGroups.zip (List.replicate uuidGroups.length hyphen)) (uuidDigits upper n)

theorem length_uuidDigits {upper : Bool} {n : BitVec 128} :
    (uuidDigits upper n).length = 32 := by
  have hle : (hexDigits n.toNat).length ≤ 32 :=
    (Nat.length_toDigits_le_iff (by decide) (by decide)).2 n.isLt
  have hlength : ((hexDigits n.toNat).leftpad 32 '0').length = 32 := by
    rw [List.length_leftpad, Nat.max_eq_left hle]
  cases upper with
  | false => exact hlength
  | true => rw [uuidDigits, if_pos rfl, List.length_map, hlength]

theorem isHexDigit_of_mem_uuidDigits {upper : Bool} {n : BitVec 128} :
    ∀ c ∈ uuidDigits upper n, isHexDigit c = true := by
  have hlower : ∀ c ∈ (hexDigits n.toNat).leftpad 32 '0', isHexDigit c = true := by
    intro c hc
    rcases List.mem_append.1 hc with hzero | hdigit
    · rw [List.eq_of_mem_replicate hzero]
      decide
    · exact isHexDigit_of_mem_hexDigits hdigit
  cases upper with
  | false => exact hlower
  | true =>
    rw [uuidDigits, if_pos rfl, List.forall_mem_map]
    intro c hc
    exact @forall_ascii (fun c => isHexDigit c = true → isHexDigit c.toUpper = true) (by decide) c
      (ascii_of_isHexDigit (hlower c hc)) (hlower c hc)

theorem isUuid_uuidChars {upper hyphen : Bool} {n : BitVec 128} :
    IsUuid (uuidChars upper hyphen n) :=
  ⟨_, _, length_uuidDigits, isHexDigit_of_mem_uuidDigits, List.length_replicate, rfl⟩

/-- **UUIDs are accepted exactly.** A text is accepted if and only if it is a UUID; a number of 128
bits is, in either case and with hyphens or without; and what an accepted text begins with, short of
all of it, is not accepted. -/
theorem uuid_exact {value : Value} {text : String} (htext : value.text = .ok text) :
    (Accepts "uuid" value ↔ IsUuid text.toList) ∧
    (∀ upper hyphen n, text = .ofList (uuidChars upper hyphen n) → Accepts "uuid" value) ∧
    (Accepts "uuid" value → ∀ shorter front, front <+: text.toList → front ≠ text.toList →
      Value.text shorter = .ok (.ofList front) → ¬ Accepts "uuid" shorter) := by
  refine ⟨accepts_uuid_iff htext, ?_, ?_⟩
  · rintro upper hyphen n rfl
    rw [accepts_uuid_iff htext, String.toList_ofList]
    exact isUuid_uuidChars
  · intro haccepts shorter front hbegins hne hshorter
    rw [accepts_uuid_iff htext] at haccepts
    rw [accepts_uuid_iff hshorter, String.toList_ofList]
    exact haccepts.not_of_prefix hbegins hne

/-- A small number in upper case, with zeros in front, and what is left of it without its end. -/
theorem uuid_exact_of_forty_two :
    Value.text (.string "00000000-0000-0000-0000-00000000002A") =
        .ok "00000000-0000-0000-0000-00000000002A" ∧
      "00000000-0000-0000-0000-00000000002A" = .ofList (uuidChars true true 42) ∧
      Accepts "uuid" (.string "00000000-0000-0000-0000-00000000002A") ∧
      IsUuid "00000000-0000-0000-0000-00000000002A".toList ∧
      ¬ Accepts "uuid" (.string "00000000-0000-0000-0000-00000000002") := by
  have hnumber : "00000000-0000-0000-0000-00000000002A" = .ofList (uuidChars true true 42) := by
    decide
  obtain ⟨hexact, haccepts, hshorter⟩ :=
    @uuid_exact (.string "00000000-0000-0000-0000-00000000002A") _ rfl
  have hwhole := haccepts true true 42 hnumber
  have hbegins : "00000000-0000-0000-0000-00000000002".toList <+:
      "00000000-0000-0000-0000-00000000002A".toList := by
    decide
  exact ⟨rfl, hnumber, hwhole, hexact.1 hwhole,
    hshorter hwhole _ _ hbegins (by decide) (congrArg Except.ok String.ofList_toList.symm)⟩

end FieldChecks.Format
