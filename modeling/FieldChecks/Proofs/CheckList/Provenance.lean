import FieldChecks.Proofs.CheckList.Keeping

/-!
# Check lists — where the checkers of a list come from

A check list binds its segments to checkers that the registry holds or
that its makers make. So what holds of all of these (`Registry.Admits`)
holds of the checkers of every list (`Registry.Admits.bindAll`), and a
registry that grows by what is bound admits no more than it did
(`Registry.Admits.keeps`).
-/

namespace FieldChecks

/-- **Every checker is of a sort**: those that the registry holds and those that its makers
make. -/
structure Registry.Admits (P : Checker → Prop) (registry : Registry) : Prop where
  checkers : ∀ name checker, registry.checker? name = some checker → P checker
  makers : ∀ name maker, registry.maker? name = some maker →
    ∀ argument checker, maker.make argument = .ok checker → P checker

namespace Registry.Admits

variable {P Q : Checker → Prop} {registry base : Registry} {separator segment : String}
variable {kept : List String} {checker : Checker} {check : BoundCheck}

theorem mono (h : registry.Admits P) (himp : ∀ checker, P checker → Q checker) :
    registry.Admits Q :=
  ⟨fun name checker hchecker => himp checker (h.checkers name checker hchecker),
    fun name maker hmaker argument checker hmake =>
      himp checker (h.makers name maker hmaker argument checker hmake)⟩

/-! ## Registrations -/

/-- A registry of nothing has no checkers of any other sort. -/
theorem empty : Registry.empty.Admits P :=
  ⟨fun _ _ h => absurd h.symm (Option.some_ne_none _),
    fun _ _ h => absurd h.symm (Option.some_ne_none _)⟩

theorem register (h : registry.Admits P) (name : String) (hP : P checker) :
    (registry.register name checker).Admits P := by
  refine ⟨fun other found hfound => ?_, h.makers⟩
  rw [checker?_register] at hfound
  split at hfound
  · cases hfound
    exact hP
  · exact h.checkers other found hfound

theorem registerMaker (h : registry.Admits P) (name : String) {maker : Maker}
    (hP : ∀ argument checker, maker.make argument = .ok checker → P checker) :
    (registry.registerMaker name maker).Admits P := by
  refine ⟨h.checkers, fun other found hfound => ?_⟩
  rw [maker?_registerMaker] at hfound
  split at hfound
  · cases hfound
    exact hP
  · exact h.makers other found hfound

/-! ## Check lists -/

/-- What is made for a segment is of the sort. -/
theorem made? (h : registry.Admits P)
    (hmade : CheckList.made? separator segment registry = some checker) : P checker := by
  obtain ⟨name, maker, argument, hcall, hmake⟩ := CheckList.made?_eq_some_iff.1 hmade
  exact h.makers name maker (CheckList.call?_eq_some_iff.1 hcall).2 argument checker hmake

/-- **Growth keeps the sort.** -/
theorem keeps (h : base.Admits P) (hkeeps : CheckList.Keeps separator kept base registry) :
    registry.Admits P := by
  refine ⟨fun name checker hchecker => ?_, fun name maker hmaker => ?_⟩
  · rw [hkeeps.checker?, Option.or_eq_some_iff] at hchecker
    rcases hchecker with hheld | ⟨-, hmade⟩
    · exact h.checkers name checker hheld
    · split at hmade
      · exact h.made? hmade
      · cases hmade
  · rw [Registry.maker?, hkeeps.makers] at hmaker
    exact h.makers name maker hmaker

/-- The checker that a segment is bound to is of the sort. -/
theorem bindSegment (h : registry.Admits P)
    (hok : (CheckList.bindSegment separator segment registry).1 = .ok check) :
    P check.checker := by
  cases hreg : registry.checker? segment with
  | some checker =>
    rw [CheckList.bindSegment_of_checker? hreg] at hok
    cases hok
    exact h.checkers segment checker hreg
  | none =>
    cases hcall : CheckList.call? separator segment registry with
    | none =>
      rw [CheckList.bindSegment_of_no_call hreg hcall] at hok
      cases hok
    | some call =>
      obtain ⟨name, maker, argument⟩ := call
      rw [CheckList.bindSegment_of_call hreg hcall] at hok
      cases hmake : maker.make argument with
      | error cause =>
        rw [hmake] at hok
        cases hok
      | ok checker =>
        rw [hmake] at hok
        cases hok
        exact h.made? (CheckList.made?_eq_some_iff.2 ⟨name, maker, argument, hcall, hmake⟩)

/-- **The checkers of a list are of the sort.** -/
theorem bindAll (h : registry.Admits P) {segments : List String} {checks : List BoundCheck}
    (hok : (CheckList.bindAll separator segments registry).1 = .ok checks) :
    ∀ check ∈ checks, P check.checker := by
  have hbinds := CheckList.bindAll_eq_ok_iff.1 hok
  clear hok
  induction hbinds with
  | nil => simp
  | cons hsegment _ ih => exact List.forall_mem_cons.2 ⟨h.bindSegment hsegment, ih⟩

end Registry.Admits

end FieldChecks
