import FieldChecks.Proofs.Checks.Alphabet

/-!
# ASCII texts — what the characters beyond ASCII do not change

The sets of a pattern may have characters beyond ASCII: digits of other
scripts, and what folds to a letter. An ASCII text does not meet them, so
it matches an expression if and only if it matches the expression with
the ASCII characters of its sets (`mem_language_ascii_iff`). Whether a
format accepts an ASCII text can then be told from that expression alone
(`fixed_eq_ok_iff_of_ascii`).
-/

namespace FieldChecks

/-! ## Sets -/

/-- The ASCII characters of a set. -/
def RangeTable.ascii (table : RangeTable) : RangeTable :=
  ⟨(table.ranges.takeWhile fun range => range.1 < 128).map fun range => (range.1, min range.2 127)⟩

theorem RangeTable.contains_ascii {table : RangeTable} {c : Char} (hc : c.toNat < 128) :
    table.ascii.contains c = table.contains c := by
  obtain ⟨ranges⟩ := table
  simp only [contains, ascii]
  induction ranges with
  | nil => rfl
  | cons range ranges ih =>
    obtain ⟨first, last⟩ := range
    rw [holds, ← ih, List.takeWhile_cons]
    -- the ranges increase, so where one begins beyond ASCII nothing more is to come
    by_cases hfirst : first < 128
    · simp only [hfirst, decide_true, if_true, List.map_cons, holds]
      have hlast : c.toNat ≤ min last 127 ↔ c.toNat ≤ last := by omega
      simp only [hlast]
    · have hlt : c.toNat < first := by omega
      simp [hfirst, hlt, holds]

namespace Pattern

/-! ## Expressions -/

namespace Regex

/-- The expression with the ASCII characters of its sets. -/
def ascii : Regex → Regex
  | .empty => .empty
  | .here condition => .here condition
  | .one set => .one set.ascii
  | .sequence first second => .sequence first.ascii second.ascii
  | .choice first second => .choice first.ascii second.ascii
  | .repetition least most inner => .repetition least most inner.ascii
  | .group keeps inner => .group keeps inner.ascii

variable {regex : Regex} {cs : List Char}

theorem mem_pow_iff_of_ascii {words others : Language Char} {count : Nat}
    (hwords : ∀ cs : List Char, (∀ c ∈ cs, c.toNat < 128) → (cs ∈ words ↔ cs ∈ others))
    (hascii : ∀ c ∈ cs, c.toNat < 128) : cs ∈ words ^ count ↔ cs ∈ others ^ count := by
  rw [Language.mem_pow, Language.mem_pow]
  refine exists_congr fun parts => and_congr_right fun hcs => and_congr_right fun _ =>
    forall₂_congr fun part hpart => hwords part fun c hc => hascii c ?_
  rw [hcs]
  exact List.mem_flatten.2 ⟨part, hpart, hc⟩

/-- **An ASCII text** does not meet the other characters of an expression. -/
theorem mem_language_ascii_iff (hascii : ∀ c ∈ cs, c.toNat < 128) :
    cs ∈ regex.ascii.language ↔ cs ∈ regex.language := by
  induction regex generalizing cs with
  | empty | here => exact Iff.rfl
  | one set =>
    refine exists_congr fun c => and_congr_right ?_
    rintro rfl
    rw [RangeTable.contains_ascii (hascii c List.mem_cons_self)]
  | sequence first second ihfirst ihsecond =>
    rw [ascii, language, language, Language.mem_mul, Language.mem_mul]
    constructor
    · rintro ⟨front, hfront, back, hback, rfl⟩
      obtain ⟨hfrontAscii, hbackAscii⟩ := List.forall_mem_append.1 hascii
      exact ⟨front, (ihfirst hfrontAscii).1 hfront, back, (ihsecond hbackAscii).1 hback, rfl⟩
    · rintro ⟨front, hfront, back, hback, rfl⟩
      obtain ⟨hfrontAscii, hbackAscii⟩ := List.forall_mem_append.1 hascii
      exact ⟨front, (ihfirst hfrontAscii).2 hfront, back, (ihsecond hbackAscii).2 hback, rfl⟩
  | choice first second ihfirst ihsecond => exact or_congr (ihfirst hascii) (ihsecond hascii)
  | repetition least most inner ih =>
    exact exists_congr fun count => and_congr_right fun _ =>
      mem_pow_iff_of_ascii (fun _ => ih) hascii
  | group _ inner ih => exact ih hascii

theorem sets_ascii : regex.ascii.sets = regex.sets.map RangeTable.ascii := by
  induction regex with
  | empty | here | one => rfl
  | sequence first second ihfirst ihsecond | choice first second ihfirst ihsecond =>
    rw [ascii, sets, sets, ihfirst, ihsecond, List.map_append]
  | repetition _ _ inner ih | group _ inner ih => exact ih

/-! Conditions stay where they are. -/

theorem isPlain_ascii : regex.ascii.isPlain = regex.isPlain := by
  induction regex with
  | empty | here | one => rfl
  | sequence first second ihfirst ihsecond | choice first second ihfirst ihsecond =>
    rw [ascii, isPlain, isPlain, ihfirst, ihsecond]
  | repetition _ _ inner ih | group _ inner ih => exact ih

theorem endsPlainly_ascii : regex.ascii.endsPlainly = regex.endsPlainly := by
  induction regex with
  | sequence first second _ ih => rw [ascii, endsPlainly, endsPlainly, isPlain_ascii, ih]
  | _ => rfl

theorem isAnchored_ascii : regex.ascii.isAnchored = regex.isAnchored := by
  cases regex with
  | sequence first second =>
    cases first with
    | here condition =>
      cases condition with
      | textStart => exact endsPlainly_ascii
      | _ => rfl
    | _ => rfl
  | _ => rfl

end Regex

/-! ## Formats -/

variable {pattern : String} {regex : Regex} {value : Value} {text : String}

/-- **An ASCII text is accepted** if it is in the language of the expression that is read, with the
ASCII characters of its sets. -/
theorem fixed_eq_ok_iff_of_ascii (hread : (read pattern).toOption.map Regex.ascii = some regex)
    (hanchored : regex.isAnchored = true) (htext : value.text = .ok text)
    (hascii : ∀ c ∈ text.toList, c.toNat < 128) :
    fixed pattern value = .ok () ↔ text.toList ∈ regex.language := by
  obtain ⟨found, hfound, rfl⟩ := Option.map_eq_some_iff.1 hread
  rw [Regex.isAnchored_ascii] at hanchored
  rw [fixed_eq_ok_iff_of_read (read_eq_ok_of_toOption hfound) htext,
    Regex.mem_language_ascii_iff hascii, Regex.matchesIn_iff_mem_language hanchored]

/-- **The ASCII characters of an accepted text** are in the sets of that expression, whatever else
the text has. -/
theorem exists_set_of_fixed_eq_ok (hread : (read pattern).toOption.map Regex.ascii = some regex)
    (hanchored : regex.isAnchored = true) (htext : value.text = .ok text)
    (haccepts : fixed pattern value = .ok ()) :
    ∀ c ∈ text.toList, c.toNat < 128 → ∃ set ∈ regex.sets, set.contains c = true := by
  intro c hmem hascii
  obtain ⟨found, hfound, rfl⟩ := Option.map_eq_some_iff.1 hread
  rw [Regex.isAnchored_ascii] at hanchored
  rw [fixed_eq_ok_iff_of_read (read_eq_ok_of_toOption hfound) htext,
    Regex.matchesIn_iff_matches_of_isAnchored hanchored] at haccepts
  obtain ⟨set, hset, hcontains⟩ := haccepts.exists_set c hmem
  refine ⟨set.ascii, ?_, by rwa [RangeTable.contains_ascii hascii]⟩
  rw [Regex.sets_ascii]
  exact List.mem_map_of_mem hset

end Pattern

end FieldChecks
