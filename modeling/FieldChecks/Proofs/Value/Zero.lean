import FieldChecks.Proofs.Value.Resolution

/-!
# Values — zero behind the layers

Whether a value is zero is told by what it resolves to
(`isZero_of_resolve`), and a value that does not resolve is not zero. A
record is zero when the values of all of its fields are (`isZero_record`).
-/

namespace FieldChecks

namespace Value

variable {value resolved : Value} {layers : Nat}

theorem areZero_eq_all (fields : List (Field Value)) :
    areZero fields = fields.all (·.value.isZero) := by
  induction fields with
  | nil => rw [areZero, List.all_nil]
  | cons field fields ih =>
    rw [areZero, List.all_cons, ih, hasZero, isZero]

/-- A record is zero when all that is in its fields is. -/
theorem isZero_record (name : String) (fields : List (Field Value)) :
    (record name fields).isZero = fields.all (·.value.isZero) := by
  rw [isZero, isZeroWithin, areZero_eq_all]

/-- Where there are no layers, it does not matter how many are followed. -/
theorem isZeroWithin_of_kind_ne (h : value.kind ≠ .reference) (layers : Nat) :
    value.isZeroWithin layers = value.isZero := by
  cases value with
  | reference inner => exact absurd rfl h
  | loop => exact absurd rfl h
  | _ => simp only [isZero, isZeroWithin]

theorem isZeroWithin_of_unresolved (h : value.resolveWithin layers = none) :
    value.isZeroWithin layers = false := by
  induction layers, value, h using unresolved_induction with
  | loop layers _ => rw [isZeroWithin]
  | limit inner _ => cases inner <;> simp [isZeroWithin]
  | layer layers inner _ ih => rw [isZeroWithin, ih]

theorem isZeroWithin_of_resolved (h : value.resolveWithin layers = some resolved) :
    value.isZeroWithin layers = resolved.isZero := by
  induction layers, value, h using resolved_induction with
  | plain layers hkind => exact isZeroWithin_of_kind_ne hkind layers
  | empty layers h =>
    cases h
    simp [isZero, isZeroWithin]
  | layer layers inner _ ih => rw [isZeroWithin, ih]

/-- **A value is as zero as what it resolves to.** -/
theorem isZero_of_resolve (h : value.resolve = some resolved) : value.isZero = resolved.isZero :=
  isZeroWithin_of_resolved h

/-- A value that does not resolve is not zero. -/
theorem isZero_of_unresolved (h : value.resolve = none) : value.isZero = false :=
  isZeroWithin_of_unresolved h

end Value

end FieldChecks
