import FieldChecks.Checks.Catalog
import FieldChecks.Proofs.Number.Integer

/-!
# Checks of size — a comparison of integers

Of an integer a size check measures the integer itself, of a text or a
sequence the length, and each measure has a width that its bounds are read
in (`measure?`). An argument that writes no bound of that width is refused
as it came, with its blanks. Any other is compared as an integer, and a
refusal tells both numbers in canonical decimal and how they stand to
each other (`size_exact`). Nothing else is measured in integers: an absent
value always passes, and all that is left but floating-point numbers is
refused for its kind.
-/

namespace FieldChecks.Size

open Integer (Width Reads)

/-! ## Relations -/

namespace Relation

/-- A size stands in a relation to a bound. -/
def Relates : Relation → Int → Int → Prop
  | .atMost, size, bound => size ≤ bound
  | .atLeast, size, bound => size ≥ bound
  | .equal, size, bound => size = bound
  | .notEqual, size, bound => size ≠ bound

instance : (relation : Relation) → (size bound : Int) → Decidable (relation.Relates size bound)
  | .atMost, size, bound => inferInstanceAs (Decidable (size ≤ bound))
  | .atLeast, size, bound => inferInstanceAs (Decidable (size ≥ bound))
  | .equal, size, bound => inferInstanceAs (Decidable (size = bound))
  | .notEqual, size, bound => inferInstanceAs (Decidable (size ≠ bound))

/-- The name of the maker of the checks of a relation. -/
def makerName : Relation → String
  | .atMost => "max"
  | .atLeast => "min"
  | .equal => "eq"
  | .notEqual => "ne"

theorem lookup_makerName (relation : Relation) :
    builtInMakers.lookup relation.makerName = some (maker relation) := by
  cases relation <;> rfl

/-- **Comparing integers decides the relation.** -/
theorem holds_compare_iff (relation : Relation) (size bound : Int) :
    relation.holds (some (compare size bound)) = true ↔ relation.Relates size bound := by
  cases relation with
  | atMost => simp [holds, Relates, Std.isLE_compare]
  | atLeast => simp [holds, Relates, Std.isGE_compare]
  | equal => simp [holds, Relates]
  | notEqual => simp [holds, Relates]

end Relation

theorem compare_natCast (a b : Nat) : compare (a : Int) (b : Int) = compare a b := by
  simp only [compare, compareOfLessAndEq, Int.ofNat_lt, Int.natCast_inj]

/-! ## Measures -/

/-- What a size check measures: the words in front of the size, the size, and the width of the
bounds that it is compared with. -/
structure Measure where
  label : String
  size : Int
  width : Width
  deriving Repr, DecidableEq

/-- What is measured in integers: integers themselves, and the lengths of texts and sequences, of
which those beyond the signed integers are not told apart. -/
def measure? : Value → Option Measure
  | .int n => some ⟨"", n.toInt, .signed⟩
  | .uint n => some ⟨"", n.toNat, .unsigned⟩
  | .string s => some ⟨"len ", min s.utf8ByteSize lengthLimit, .signed⟩
  | .sequence length => some ⟨"len ", min length lengthLimit, .signed⟩
  | _ => none

variable {relation : Relation} {argument label : String} {value : Value} {measure : Measure}
variable {size bound : Int}

/-- The answer about a size that is compared with a bound. -/
def answer (relation : Relation) (label : String) (size bound : Int) : Except CheckError Unit :=
  if relation.Relates size bound then .ok ()
  else .error (.invalid (label ++ Integer.text size ++ " is " ++ relation.violation ++ " " ++
    Integer.text bound))

theorem judge_compare :
    judge relation (some (compare size bound)) (label ++ Integer.text size) (Integer.text bound) =
      answer relation label size bound := by
  by_cases h : relation.Relates size bound
  · rw [judge, if_pos ((relation.holds_compare_iff size bound).2 h), answer, if_pos h]
  · rw [judge, if_neg (mt (relation.holds_compare_iff size bound).1 h), answer, if_neg h]

/-! ## Bounds -/

section Bounds

variable {α φ : Type} {read : String → Except φ α} {message : φ → String} {a : α} {fault : φ}

theorem boundOf_of_ok (h : read (Text.trim argument) = .ok a) :
    boundOf read message argument = .ok a := by
  rw [boundOf, h]

theorem boundOf_of_error (h : read (Text.trim argument) = .error fault) :
    boundOf read message argument = .error (.argument argument (message fault)) := by
  rw [boundOf, h]

end Bounds

/-- **A signed bound is compared with**, and an argument without one is refused. -/
theorem compareSigned_of_reads (h : Reads .signed (Text.trim argument) bound) :
    compareSigned relation argument label size = answer relation label size bound := by
  obtain ⟨k, hread, rfl⟩ := Integer.reads_signed_iff.1 h
  rw [compareSigned, boundOf_of_ok hread, ok_bind, judge_compare]

theorem compareSigned_of_not_reads (h : ∀ bound, ¬ Reads .signed (Text.trim argument) bound) :
    ∃ fault : IntegerFault,
      compareSigned relation argument label size = .error (.argument argument fault.message) := by
  cases hread : Integer.readSigned (Text.trim argument) with
  | ok k => exact absurd (Integer.reads_signed_iff.2 ⟨k, hread, rfl⟩) (h _)
  | error fault => exact ⟨fault, by rw [compareSigned, boundOf_of_error hread, error_bind]⟩

/-- **An unsigned bound is compared with**, and an argument without one is refused. -/
theorem compareUnsigned_of_reads {n : Nat} (h : Reads .unsigned (Text.trim argument) bound) :
    compareUnsigned relation argument n = answer relation "" n bound := by
  obtain ⟨k, hread, rfl⟩ := Integer.reads_unsigned_iff.1 h
  rw [compareUnsigned, boundOf_of_ok hread, ok_bind, ← judge_compare, compare_natCast,
    String.empty_append, Integer.text_natCast, Integer.text_natCast]

theorem compareUnsigned_of_not_reads {n : Nat}
    (h : ∀ bound, ¬ Reads .unsigned (Text.trim argument) bound) :
    ∃ fault : IntegerFault,
      compareUnsigned relation argument n = .error (.argument argument fault.message) := by
  cases hread : Integer.readUnsigned (Text.trim argument) with
  | ok k => exact absurd (Integer.reads_unsigned_iff.2 ⟨k, hread, rfl⟩) (h _)
  | error fault => exact ⟨fault, by rw [compareUnsigned, boundOf_of_error hread, error_bind]⟩

/-! ## Checks -/

/-- **A value that is measured is compared** by the function for the width of its measure. -/
theorem check_of_measure (h : measure? value = some measure) :
    (measure.width = .signed ∧ ∀ relation argument,
      check relation argument value =
        compareSigned relation argument measure.label measure.size) ∨
    (measure.width = .unsigned ∧ measure.label = "" ∧ ∃ n : Nat, measure.size = n ∧
      ∀ relation argument, check relation argument value = compareUnsigned relation argument n) := by
  cases value with
  | int n =>
    cases h
    exact .inl ⟨rfl, fun _ _ => rfl⟩
  | uint n =>
    cases h
    exact .inr ⟨rfl, rfl, n.toNat, rfl, fun _ _ => rfl⟩
  | string s =>
    cases h
    exact .inl ⟨rfl, fun _ _ => rfl⟩
  | sequence length =>
    cases h
    exact .inl ⟨rfl, fun _ _ => rfl⟩
  | _ => cases h

/-- The bound that the argument writes is what the size is compared with. -/
theorem check_of_reads (hmeasure : measure? value = some measure)
    (h : Reads measure.width (Text.trim argument) bound) :
    check relation argument value = answer relation measure.label measure.size bound := by
  rcases check_of_measure hmeasure with ⟨hwidth, hcheck⟩ | ⟨hwidth, hlabel, n, hsize, hcheck⟩
  · rw [hwidth] at h
    rw [hcheck, compareSigned_of_reads h]
  · rw [hwidth] at h
    rw [hcheck, compareUnsigned_of_reads h, hlabel, hsize]

/-- An argument that writes no bound is refused, whatever the size. -/
theorem check_of_not_reads (hmeasure : measure? value = some measure)
    (h : ∀ bound, ¬ Reads measure.width (Text.trim argument) bound) :
    ∃ fault : IntegerFault,
      check relation argument value = .error (.argument argument fault.message) := by
  rcases check_of_measure hmeasure with ⟨hwidth, hcheck⟩ | ⟨hwidth, -, n, -, hcheck⟩
  · rw [hwidth] at h
    rw [hcheck]
    exact compareSigned_of_not_reads h
  · rw [hwidth] at h
    rw [hcheck]
    exact compareUnsigned_of_not_reads h

/-- What is neither measured nor absent nor a floating-point number is refused for its kind,
whatever the argument. -/
theorem check_of_unmeasured (hmeasure : measure? value = none) (habsent : value.kind ≠ .absent)
    (hfloat : value.kind ≠ .float) :
    check relation argument value = .error (.unsupportedKind value.kind) := by
  cases value with
  | absent => exact absurd rfl habsent
  | float x => exact absurd rfl hfloat
  | int n => cases hmeasure
  | uint n => cases hmeasure
  | string s => cases hmeasure
  | sequence length => cases hmeasure
  | _ => rfl

/-- **The checks of size are exact on integers and lengths.** The maker of each relation takes any
argument. Where an argument writes a bound between blanks, the size and the bound are compared as
integers, and told in canonical decimal if they do not stand in the relation; where it writes none,
it is refused as it came. An absent value passes and a value without a size is refused for its kind,
whatever the argument. -/
theorem size_exact (relation : Relation) (argument : String) :
    (∃ maker, builtInMakers.lookup relation.makerName = some maker ∧
      maker.make argument = .ok (check relation argument)) ∧
    (∀ value measure, measure? value = some measure →
      (∀ bound, Reads measure.width (Text.trim argument) bound →
        check relation argument value =
          if relation.Relates measure.size bound then .ok ()
          else .error (.invalid (measure.label ++ Integer.text measure.size ++ " is " ++
            relation.violation ++ " " ++ Integer.text bound))) ∧
      ((∀ bound, ¬ Reads measure.width (Text.trim argument) bound) →
        ∃ fault : IntegerFault,
          check relation argument value = .error (.argument argument fault.message))) ∧
    check relation argument .absent = .ok () ∧
    (∀ value, measure? value = none → value.kind ≠ .absent → value.kind ≠ .float →
      check relation argument value = .error (.unsupportedKind value.kind)) ∧
    ∀ n, Integer.IsCanonical (Integer.text n).toList n :=
  ⟨⟨maker relation, relation.lookup_makerName, rfl⟩,
    fun _ _ hmeasure => ⟨fun _ => check_of_reads hmeasure, check_of_not_reads hmeasure⟩, rfl,
    fun _ => check_of_unmeasured, Integer.isCanonical_text⟩

/-- A text that is too short for a bound with a sign and blanks, a bound below nought, which a length
has but an unsigned integer cannot have, one out of range, and a value without a size. -/
theorem size_exact_of_bounds :
    check .atLeast " +03 " (.string "ab") = .error (.invalid "len 2 is less than 3") ∧
      check .atLeast "-1" (.sequence 0) = .ok () ∧
      (∃ fault : IntegerFault,
        check .atLeast "-1" (.uint 0) = .error (.argument "-1" fault.message)) ∧
      (∃ fault : IntegerFault, check .atMost " 9223372036854775808" (.int 1) =
        .error (.argument " 9223372036854775808" fault.message)) ∧
      check .equal "x" (.bool true) = .error (.unsupportedKind .bool) := by
  obtain ⟨-, hpadded, -⟩ := size_exact .atLeast " +03 "
  obtain ⟨-, hnegative, -⟩ := size_exact .atLeast "-1"
  obtain ⟨-, hlarge, -⟩ := size_exact .atMost " 9223372036854775808"
  obtain ⟨-, -, -, hkind, -⟩ := size_exact .equal "x"
  have hthree : Reads .signed (Text.trim " +03 ") 3 :=
    Integer.reads_signed_iff.2 ⟨3, by decide, rfl⟩
  have hminus : Reads .signed (Text.trim "-1") (-1) :=
    Integer.reads_signed_iff.2 ⟨-1, by decide, rfl⟩
  have hunsigned : Integer.readUnsigned (Text.trim "-1") = .error .invalidDigit := by decide
  have hbeyond : Integer.readSigned (Text.trim " 9223372036854775808") = .error .tooLarge := by
    decide
  refine ⟨?_, ?_, ?_, ?_, ?_⟩
  · exact (hpadded _ ⟨"len ", 2, .signed⟩ (by decide)).1 3 hthree
  · exact (hnegative _ ⟨"len ", 0, .signed⟩ (by decide)).1 (-1) hminus
  · refine (hnegative (.uint 0) ⟨"", 0, .unsigned⟩ rfl).2 fun bound h => ?_
    obtain ⟨k, hread, -⟩ := Integer.reads_unsigned_iff.1 h
    rw [hunsigned] at hread
    cases hread
  · refine (hlarge (.int 1) ⟨"", 1, .signed⟩ rfl).2 fun bound h => ?_
    obtain ⟨k, hread, -⟩ := Integer.reads_signed_iff.1 h
    rw [hbeyond] at hread
    cases hread
  · exact hkind (.bool true) rfl nofun nofun

end FieldChecks.Size
