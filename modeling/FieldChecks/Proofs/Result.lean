import Mathlib.Data.List.Forall2

/-!
# Results — what succeeds, and what fails

Small facts about results: a computation in steps succeeds when its steps
do, a traversal when it does at every member (`mapM_eq_ok_iff`), and a
failure shows even where what would have come out is not looked at. A
computation comes to just the result that is described, if some result
always is, and no other (`eq_iff_of_exists`).
-/

namespace FieldChecks

variable {ε α β : Type}

theorem ok_bind (a : α) (next : α → Except ε β) : Except.ok a >>= next = next a := rfl

theorem error_bind (error : ε) (next : α → Except ε β) :
    Except.error error >>= next = .error error := rfl

theorem bind_eq_ok_iff {x : Except ε α} {next : α → Except ε β} {b : β} :
    x >>= next = .ok b ↔ ∃ a, x = .ok a ∧ next a = .ok b := by
  cases x <;> simp [bind, Except.bind]

/-- A step that carries a state along goes on with the state behind it. -/
theorem bind_eq {σ : Type} {step : StateT σ (Except ε) α} {next : α → StateT σ (Except ε) β} {a : α}
    {state behind : σ} (h : step state = .ok (a, behind)) :
    (step >>= next) state = next a behind := by
  change (step state >>= fun found => next found.1 found.2) = _
  rw [h]
  rfl

theorem ite_ok_iff {p : Prop} [Decidable p] {error : ε} :
    (if p then .ok () else .error error : Except ε Unit) = .ok () ↔ p := by
  split <;> simp [*]

theorem isOk_iff {result : Except ε Unit} : result.isOk = true ↔ result = .ok () := by
  cases result <;> simp [Except.isOk, Except.toBool]

theorem map_bind_pure {γ : Type} (x : Except ε α) (g : α → β) (f : β → γ) :
    (x >>= fun a => pure (g a)).map f = x.map fun a => f (g a) := by
  cases x <;> rfl

/-- A traversal succeeds with the results for the members, one by one. -/
theorem mapM_eq_ok_iff {f : α → Except ε β} {as : List α} {bs : List β} :
    as.mapM f = .ok bs ↔ List.Forall₂ (fun a b => f a = .ok b) as bs := by
  induction as generalizing bs with
  | nil =>
    rw [List.mapM_nil, List.forall₂_nil_left_iff]
    exact ⟨fun h => (Except.ok.inj h).symm, fun h => congrArg Except.ok h.symm⟩
  | cons a as ih =>
    simp only [List.mapM_cons, bind_eq_ok_iff, ih, List.forall₂_cons_left_iff]
    constructor
    · rintro ⟨b, hfirst, rest, hrest, hbs⟩
      exact ⟨b, rest, hfirst, hrest, (Except.ok.inj hbs).symm⟩
    · rintro ⟨b, rest, hfirst, hrest, rfl⟩
      exact ⟨b, hfirst, rest, hrest, rfl⟩

/-- A failure is one whatever is made of a success. -/
theorem eq_error_of_map {x : Except ε α} {f : α → β} {error : ε} (h : x.map f = .error error) :
    x = .error error := by
  cases x with
  | error other =>
    cases h
    rfl
  | ok a => cases h

/-- A result is the one that is described, if one is and it can be no other. -/
theorem eq_iff_of_exists {result : α} {Described : α → Prop} (hsome : ∃ other, Described other)
    (honly : ∀ {other}, Described other → result = other) {other : α} :
    result = other ↔ Described other := by
  constructor
  · rintro rfl
    obtain ⟨other, h⟩ := hsome
    rwa [honly h]
  · exact honly

end FieldChecks
