import FieldChecks.Proofs.Value.Zero

/-!
# Values — zero leaves

Following layers and entering records, one comes to the leaves of a value
in the end. They alone say whether it is zero: all layers have to be
followed to something, and every leaf that is found is the zero of its
kind (`isZero_iff_reached`). Zero passes from a value to everything below
it (`Reached.isZero`), and back up by induction behind the layers.
-/

namespace FieldChecks

namespace Value

variable {root value resolved : Value}

/-- What is come to from a value through the fields of the records that it and they lead to, whether
public or not. -/
inductive Reached (root : Value) : Value → Prop
  | root : Reached root root
  | field {value : Value} {name : String} {fields : List (Field Value)} {field : Field Value}
      (h : Reached root value) (hvalue : value.resolve = some (.record name fields))
      (hfield : field ∈ fields) : Reached root field.value

/-- The leaves that are zero, one of each kind. Nought with a minus sign is none of them. -/
inductive ZeroLeaf : Value → Prop
  | absent : ZeroLeaf .absent
  | bool : ZeroLeaf (.bool false)
  | int : ZeroLeaf (.int 0)
  | uint : ZeroLeaf (.uint 0)
  | float : ZeroLeaf (.float (.zero false))
  | char : ZeroLeaf (.char '\x00')
  | string : ZeroLeaf (.string "")
  | sequence : ZeroLeaf (.sequence 0)

theorem ZeroLeaf.isZero (h : ZeroLeaf value) : value.isZero = true := by
  cases h <;> decide

/-- What is zero and no record is the zero of its kind. -/
theorem zeroLeaf_of_isZero (hrecord : value.kind ≠ .record) (hreference : value.kind ≠ .reference)
    (h : value.isZero = true) : ZeroLeaf value := by
  cases value with
  | record name fields => exact absurd rfl hrecord
  | reference inner => exact absurd rfl hreference
  | loop => exact absurd rfl hreference
  | absent => exact .absent
  | bool b =>
    obtain rfl : b = false := by simpa [Value.isZero, isZeroWithin] using h
    exact .bool
  | int n =>
    obtain rfl : n = 0 := by simpa [Value.isZero, isZeroWithin] using h
    exact .int
  | uint n =>
    obtain rfl : n = 0 := by simpa [Value.isZero, isZeroWithin] using h
    exact .uint
  | float x =>
    have hbits : x.bits = 0 := by simpa [Value.isZero, isZeroWithin] using h
    obtain rfl : x = .zero false := congrArg Binary64.mk hbits
    exact .float
  | char c =>
    obtain rfl : c = '\x00' := by simpa [Value.isZero, isZeroWithin] using h
    exact .char
  | string s =>
    obtain rfl : s = "" := by simpa [Value.isZero, isZeroWithin] using h
    exact .string
  | sequence length =>
    obtain rfl : length = 0 := by simpa [Value.isZero, isZeroWithin] using h
    exact .sequence

/-- What is found behind the layers does not stand in the way of zero: it is a record, of which the
fields decide, or a zero leaf. -/
def IsRecordOrZero (value : Value) : Prop :=
  ∃ resolved, value.resolve = some resolved ∧ (resolved.kind = .record ∨ ZeroLeaf resolved)

/-- A zero value resolves to a record or to a zero leaf. -/
theorem isRecordOrZero_of_isZero (h : value.isZero = true) : value.IsRecordOrZero := by
  cases hvalue : value.resolve with
  | none =>
    rw [isZero_of_unresolved hvalue] at h
    cases h
  | some resolved =>
    rw [isZero_of_resolve hvalue] at h
    by_cases hrecord : resolved.kind = .record
    · exact ⟨resolved, hvalue, .inl hrecord⟩
    · exact ⟨resolved, hvalue, .inr (zeroLeaf_of_isZero hrecord (resolveWithin_spec hvalue).1 h)⟩

theorem isZero_field {name : String} {fields : List (Field Value)} {field : Field Value}
    (hvalue : value.resolve = some (.record name fields)) (hfield : field ∈ fields)
    (h : value.isZero = true) : field.value.isZero = true := by
  rw [isZero_of_resolve hvalue, isZero_record, List.all_eq_true] at h
  exact h field hfield

/-- **Whatever is come to from a zero value is zero.** -/
theorem Reached.isZero (h : Reached root value) (hroot : root.isZero = true) :
    value.isZero = true := by
  induction h with
  | root => exact hroot
  | field _ hvalue hfield ih => exact isZero_field hvalue hfield ih

/-- What is come to from the value in a field is come to from the record. -/
theorem Reached.of_field {name : String} {fields : List (Field Value)} {field : Field Value}
    (hroot : root.resolve = some (.record name fields)) (hfield : field ∈ fields)
    (h : Reached field.value value) : Reached root value := by
  induction h with
  | root => exact .field .root hroot hfield
  | field _ hvalue hmem ih => exact .field ih hvalue hmem

/-- **A value is zero if its leaves are.** -/
theorem isZero_iff_reached :
    root.isZero = true ↔ ∀ value, Reached root value → value.IsRecordOrZero := by
  refine ⟨fun h value hreached => isRecordOrZero_of_isZero (hreached.isZero h), ?_⟩
  induction root using resolve_induction with
  | step root ih =>
    intro h
    obtain ⟨resolved, hroot, hresolved⟩ := h root .root
    rw [isZero_of_resolve hroot]
    rcases hresolved with hrecord | hleaf
    · cases resolved with
      | record name fields =>
        rw [isZero_record, List.all_eq_true]
        exact fun field hfield => ih _ hroot field hfield fun value hreached =>
          h value (.of_field hroot hfield hreached)
      | _ => cases hrecord
    · exact hleaf.isZero

end Value

end FieldChecks
