import FieldChecks.Validator
import FieldChecks.Proofs.Value.Resolution

/-!
# Values — counting layers

Every value is some number of layers around a value that is none, an empty
layer or a layer around itself (`exists_eq_layered`), and what is followed
is counted: layers in front are taken off the number that may be followed,
and beyond that number nothing is found (`resolveWithin_layered`). An
empty layer has to be followed as well, so there is room for one layer
less around it. More layers to follow never lead to another value
(`resolveWithin_mono`), and neither do layers in front
(`layers_counted`).
-/

namespace FieldChecks

namespace Value

variable {value resolved : Value} {layers more n : Nat}

/-- A value behind further optional layers. -/
def layered : Nat → Value → Value
  | 0, value => value
  | n + 1, value => .reference (some (layered n value))

/-- What a value has behind all its layers: a value that is no layer, an empty layer, or a layer
around itself. -/
inductive Innermost : Value → Prop
  | plain {value : Value} (h : value.kind ≠ .reference) : Innermost value
  | empty : Innermost (.reference none)
  | loop : Innermost .loop

/-- **Every value is made of layers** around an innermost one. -/
theorem exists_eq_layered : (value : Value) → ∃ n core, value = layered n core ∧ Innermost core
  | .reference (some inner) =>
    have ⟨n, core, heq, hcore⟩ := exists_eq_layered inner
    ⟨n + 1, core, by rw [heq, layered], hcore⟩
  | .reference none => ⟨0, _, rfl, .empty⟩
  | .loop => ⟨0, _, rfl, .loop⟩
  | .absent | .bool _ | .int _ | .uint _ | .float _ | .char _ | .string _ | .sequence _
  | .record _ _ => ⟨0, _, rfl, .plain nofun⟩

/-- **Layers in front are counted**: as many are taken off those that are followed, and what lies
behind more than are followed is not found. -/
theorem resolveWithin_layered :
    (layered n value).resolveWithin layers =
      if n ≤ layers then value.resolveWithin (layers - n) else none := by
  induction n generalizing layers with
  | zero => simp [layered]
  | succ n ih =>
    cases layers with
    | zero => simp [layered, resolveWithin]
    | succ layers => simp [layered, resolveWithin, ih]

theorem resolve_layered (n : Nat) (value : Value) :
    (layered n value).resolve = if n ≤ 64 then value.resolveWithin (64 - n) else none :=
  resolveWithin_layered

/-- An empty layer is followed like any other. -/
theorem resolveWithin_empty (layers : Nat) :
    (reference none).resolveWithin layers = if layers = 0 then none else some .absent := by
  cases layers <;> rfl

theorem resolveWithin_loop (layers : Nat) : loop.resolveWithin layers = none := by
  cases layers <;> rfl

/-- **Following more layers does not change what is found.** -/
theorem resolveWithin_mono (h : value.resolveWithin layers = some resolved) (hle : layers ≤ more) :
    value.resolveWithin more = some resolved := by
  induction layers, value, h using resolved_induction generalizing more with
  | plain layers hkind => exact resolveWithin_of_kind_ne hkind more
  | empty layers h =>
    obtain ⟨more, rfl⟩ : ∃ k, more = k + 1 := ⟨more - 1, by omega⟩
    exact h
  | layer layers inner _ ih =>
    obtain ⟨more, rfl⟩ : ∃ k, more = k + 1 := ⟨more - 1, by omega⟩
    exact ih (Nat.le_of_succ_le_succ hle)

/-! ## Results and failures -/

theorem resolution_of_resolved (h : value.resolve = some resolved) :
    value.resolution = .ok resolved := by
  rw [resolution, h]

theorem resolution_of_unresolved (h : value.resolve = none) :
    value.resolution = .error (.derefLimit 64) := by
  rw [resolution, h]
  rfl

theorem resolve_of_resolution (h : value.resolution = .ok resolved) :
    value.resolve = some resolved := by
  rw [resolution] at h
  split at h
  · cases h
    assumption
  · cases h

/-- **Layers in front leave the result as it is or are too many.** -/
theorem resolution_layered_cases (n : Nat) (value : Value) :
    (layered n value).resolution = value.resolution ∨
      (layered n value).resolution = .error (.derefLimit 64) := by
  cases h : (layered n value).resolve with
  | none => exact .inr (resolution_of_unresolved h)
  | some resolved =>
    left
    rw [resolution_of_resolved h]
    rw [resolve, resolveWithin_layered] at h
    split at h
    · exact (resolution_of_resolved (resolveWithin_mono h (Nat.sub_le _ _))).symm
    · cases h

/-- **Layers are counted exactly.** Up to 64 layers around a value that is none lead to it, up to 63
around an empty layer to an absent value, and no number of them out of a layer around itself;
everything else fails, for the limit of 64. Every value is of one of these three forms. What is
found is no layer, and is what it resolves to itself. Layers in front of a value leave its result as
it is, or make it fail. -/
theorem layers_counted :
    (∀ n value, value.kind ≠ .reference → (layered n value).resolution =
      if n ≤ 64 then .ok value else .error (.derefLimit 64)) ∧
    (∀ n, (layered n (.reference none)).resolution =
      if n ≤ 63 then .ok .absent else .error (.derefLimit 64)) ∧
    (∀ n, (layered n .loop).resolution = .error (.derefLimit 64)) ∧
    (∀ value, ∃ n core, value = layered n core ∧ Innermost core) ∧
    (∀ value resolved : Value, value.resolution = .ok resolved →
      resolved.kind ≠ .reference ∧ resolved.resolution = .ok resolved) ∧
    ∀ n value, (layered n value).resolution = value.resolution ∨
      (layered n value).resolution = .error (.derefLimit 64) := by
  refine ⟨fun n value hkind => ?plain, fun n => ?empty, fun n => ?loop, exists_eq_layered,
    fun value resolved h => ?found, resolution_layered_cases⟩
  case plain =>
    have hresolve := resolve_layered n value
    rw [resolveWithin_of_kind_ne hkind] at hresolve
    split at hresolve
    · rw [if_pos ‹_›, resolution_of_resolved hresolve]
    · rw [if_neg ‹_›, resolution_of_unresolved hresolve]
  case empty =>
    have hresolve := resolve_layered n (.reference none)
    rw [resolveWithin_empty] at hresolve
    by_cases hn : n ≤ 63
    · rw [if_pos (by omega), if_neg (by omega)] at hresolve
      rw [if_pos hn, resolution_of_resolved hresolve]
    · -- at 64 layers the empty one is not followed, and beyond that it is not come to
      have hnone : (layered n (.reference none)).resolve = none := by
        rw [hresolve, ite_eq_right_iff]
        exact fun hle => if_pos (by omega)
      rw [if_neg hn, resolution_of_unresolved hnone]
  case loop =>
    have hresolve := resolve_layered n .loop
    rw [resolveWithin_loop, ite_self] at hresolve
    exact resolution_of_unresolved hresolve
  case found =>
    have hresolve := resolve_of_resolution h
    have hself : resolved.resolve = some resolved := resolveWithin_resolved hresolve layerLimit
    exact ⟨(resolveWithin_spec hresolve).1, resolution_of_resolved hself⟩

/-- The two boundaries: 64 layers around a text, 63 around an empty layer, and one more of each. -/
theorem layers_counted_at_limit :
    (layered 64 (.string "x")).resolution = .ok (.string "x") ∧
      (layered 65 (.string "x")).resolution = .error (.derefLimit 64) ∧
      (layered 63 (.reference none)).resolution = .ok .absent ∧
      (layered 64 (.reference none)).resolution = .error (.derefLimit 64) ∧
      (Value.absent).kind ≠ .reference ∧ (Value.absent).resolution = .ok .absent := by
  obtain ⟨hplain, hempty, -, -, hfound, -⟩ := layers_counted
  exact ⟨hplain 64 (.string "x") nofun, hplain 65 (.string "x") nofun, hempty 63, hempty 64,
    hfound (.reference none) .absent rfl⟩

end Value

end FieldChecks
