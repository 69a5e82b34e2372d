import FieldChecks.CheckList
import FieldChecks.Proofs.Registry.Lookup
import Mathlib.Data.List.Forall2

/-!
# Check lists — what reading one leaves in the registry

Binding a segment to a maker's checker keeps the checker in the registry,
so a list is read against a registry that grows as it is read. This file
shows that the growth cannot be seen. `Keeps` relates a registry to the
one it has grown from: the makers are the same, and some segments have
the checkers that their makers make. Against either registry a segment is
bound alike (`Keeps.bindSegment_fst`), and so is a list
(`Keeps.bindAll`), which makes reading a recursion over the segments
and one registry (`bindAll_cons_fst`).
-/

namespace FieldChecks

namespace CheckList

variable {separator segment : String} {registry base : Registry} {kept : List String}

/-! ## What a segment calls for -/

/-- The maker that a segment calls, between the name and the argument that it gives. -/
def call? (separator segment : String) (registry : Registry) : Option (String × Maker × String) :=
  match invocation? separator segment with
  | none => none
  | some (name, argument) => (registry.maker? name).map fun maker => (name, maker, argument)

/-- The checker that a segment's maker makes, if the segment calls one and it accepts the
argument. -/
def made? (separator segment : String) (registry : Registry) : Option Checker :=
  match call? separator segment registry with
  | none => none
  | some (_, maker, argument) => (maker.make argument).toOption

variable {name argument : String} {maker : Maker} {checker : Checker}

/-- A segment is read as a call when its cut leaves two parts and no separator in the second. -/
theorem invocation?_eq_some_iff :
    invocation? separator segment = some (name, argument) ↔
      Text.cut? separator segment = some (name, argument) ∧ name ≠ "" ∧ argument ≠ "" ∧
        ¬ Text.occurs separator argument := by
  unfold invocation?
  cases h : Text.cut? separator segment with
  | none => simp
  | some parts =>
    obtain ⟨before, rest⟩ := parts
    by_cases hparts : before.isEmpty || rest.isEmpty || Text.occurs separator rest
    · simp only [hparts, if_true, Option.some.injEq, Prod.mk.injEq]
      simp only [Bool.or_eq_true, String.isEmpty_iff] at hparts
      constructor
      · intro hcall
        cases hcall
      · rintro ⟨⟨rfl, rfl⟩, hname, hargument, hocc⟩
        simp_all
    · simp only [hparts, Bool.false_eq_true, if_false, Option.some.injEq, Prod.mk.injEq]
      simp only [Bool.or_eq_true, String.isEmpty_iff, not_or] at hparts
      constructor
      · rintro ⟨rfl, rfl⟩
        exact ⟨⟨rfl, rfl⟩, hparts.1.1, hparts.1.2, hparts.2⟩
      · rintro ⟨heq, -⟩
        exact heq

/-- A segment calls the maker of the name that it gives. -/
theorem call?_eq_some_iff :
    call? separator segment registry = some (name, maker, argument) ↔
      invocation? separator segment = some (name, argument) ∧
        registry.maker? name = some maker := by
  unfold call?
  cases invocation? separator segment with
  | none => simp
  | some parts =>
    obtain ⟨other, rest⟩ := parts
    simp only [Option.map_eq_some_iff, Option.some.injEq, Prod.mk.injEq]
    constructor
    · rintro ⟨found, hfound, rfl, rfl, rfl⟩
      exact ⟨⟨rfl, rfl⟩, hfound⟩
    · rintro ⟨⟨rfl, rfl⟩, hmaker⟩
      exact ⟨maker, hmaker, rfl, rfl, rfl⟩

/-- Calls read the makers only. -/
theorem call?_congr (h : registry.makers = base.makers) :
    call? separator segment registry = call? separator segment base := by
  unfold call? Registry.maker?
  rw [h]

/-- What is made for a segment is what the maker that it calls makes. -/
theorem made?_eq_some_iff :
    made? separator segment registry = some checker ↔
      ∃ name maker argument, call? separator segment registry = some (name, maker, argument) ∧
        maker.make argument = .ok checker := by
  unfold made?
  cases call? separator segment registry with
  | none => simp
  | some call =>
    obtain ⟨name, maker, argument⟩ := call
    cases hmake : maker.make argument with
    | error cause => simp [Except.toOption, hmake]
    | ok made => simp [Except.toOption, hmake]

/-- A segment that calls a maker is reported under the maker's name. -/
theorem displayName_of_call? (h : call? separator segment registry = some (name, maker, argument)) :
    displayName separator segment = name := by
  obtain ⟨hinv, -⟩ := call?_eq_some_iff.1 h
  obtain ⟨hcut, -⟩ := invocation?_eq_some_iff.1 hinv
  rw [displayName, hcut]

/-! ## Binding a segment, case by case -/

theorem bindSegment_of_checker? (h : registry.checker? segment = some checker) :
    bindSegment separator segment registry =
      (.ok ⟨displayName separator segment, checker⟩, registry) := by
  unfold bindSegment
  rw [h]

theorem bindSegment_of_no_call (h : registry.checker? segment = none)
    (hcall : call? separator segment registry = none) :
    bindSegment separator segment registry = (.error (.unknownChecker segment), registry) := by
  unfold call? at hcall
  unfold bindSegment Registry.materialize
  rw [h]
  cases hinv : invocation? separator segment with
  | none => rfl
  | some parts =>
    obtain ⟨name, argument⟩ := parts
    simp only [hinv, Option.map_eq_none_iff] at hcall
    simp only [hcall]

/-- **A segment that calls a maker gets what the maker makes**, and the registry keeps it. -/
theorem bindSegment_of_call (h : registry.checker? segment = none)
    (hcall : call? separator segment registry = some (name, maker, argument)) :
    bindSegment separator segment registry = match maker.make argument with
      | .error cause =>
        (.error (.makerRejected segment cause), registry.record (some segment) maker false)
      | .ok checker => (.ok ⟨name, checker⟩,
        (registry.record (some segment) maker true).register segment checker) := by
  obtain ⟨hinv, hmaker⟩ := call?_eq_some_iff.1 hcall
  unfold bindSegment Registry.materialize Registry.makeChecker
  simp only [h, hinv, hmaker]
  cases maker.make argument <;> rfl

/-! ## Registries that have grown by keeping -/

/-- **A registry that keeps made checkers**: it is `base`, with the checkers of the segments
`kept` beside those of `base`, each as the segment's maker makes it. -/
structure Keeps (separator : String) (kept : List String) (base registry : Registry) : Prop where
  makers : registry.makers = base.makers
  checker? : ∀ name, registry.checker? name =
    (base.checker? name).or (if name ∈ kept then made? separator name base else none)

theorem Keeps.refl (separator : String) (base : Registry) : Keeps separator [] base base :=
  ⟨rfl, fun name => by simp⟩

/-- Only which segments are kept matters, not their order. -/
theorem Keeps.congr {others : List String} (h : Keeps separator kept base registry)
    (hmem : ∀ name, name ∈ kept ↔ name ∈ others) : Keeps separator others base registry :=
  ⟨h.makers, fun name => by simp only [h.checker?, hmem]⟩

/-- The account of calls does not matter. -/
theorem Keeps.record (h : Keeps separator kept base registry) (segment : String) (maker : Maker)
    (accepted : Bool) : Keeps separator kept base (registry.record (some segment) maker accepted) :=
  ⟨h.makers, h.checker?⟩

/-- **A segment is bound alike** in a registry and in one that has grown from it. -/
theorem Keeps.bindSegment_fst (h : Keeps separator kept base registry) (segment : String) :
    (bindSegment separator segment registry).1 = (bindSegment separator segment base).1 := by
  cases hbase : base.checker? segment with
  | some checker =>
    have hreg : registry.checker? segment = some checker := by
      rw [h.checker?, hbase, Option.some_or]
    rw [bindSegment_of_checker? hbase, bindSegment_of_checker? hreg]
  | none =>
    have hreg := h.checker? segment
    rw [hbase, Option.none_or] at hreg
    have hcalls : call? separator segment registry = call? separator segment base :=
      call?_congr h.makers
    cases hcall : call? separator segment base with
    | none =>
      have hmade : made? separator segment base = none := by rw [made?, hcall]
      rw [hmade, ite_self] at hreg
      rw [bindSegment_of_no_call hbase hcall, bindSegment_of_no_call hreg (hcalls.trans hcall)]
    | some call =>
      obtain ⟨name, maker, argument⟩ := call
      rw [bindSegment_of_call hbase hcall]
      have hmade : made? separator segment base = (maker.make argument).toOption := by
        rw [made?, hcall]
      cases hmake : maker.make argument with
      | error cause =>
        -- a maker that refuses leaves nothing to keep, so it is asked again and refuses again
        rw [hmade, hmake, Except.toOption, ite_self] at hreg
        rw [bindSegment_of_call hreg (hcalls.trans hcall), hmake]
      | ok checker =>
        rw [hmade, hmake, Except.toOption] at hreg
        split at hreg
        · -- a segment that is kept is found by its text, under the name that was called
          rw [bindSegment_of_checker? hreg, displayName_of_call? hcall]
        · rw [bindSegment_of_call hreg (hcalls.trans hcall), hmake]

/-- A segment whose text names a checker already may count as kept. -/
theorem Keeps.of_checker? (h : Keeps separator kept base registry)
    (hreg : registry.checker? segment = some checker) :
    Keeps separator (kept ++ [segment]) base registry := by
  refine ⟨h.makers, fun name => ?_⟩
  rw [h.checker?]
  by_cases hname : name = segment
  · -- what is found in `registry` is there in `base`, or is made
    subst hname
    rw [h.checker?] at hreg
    cases hbase : base.checker? name with
    | some found => rw [Option.some_or, Option.some_or]
    | none =>
      rw [hbase, Option.none_or] at hreg
      split at hreg
      · rename_i hmem
        rw [if_pos hmem, if_pos (List.mem_append_left _ hmem)]
      · cases hreg
  · simp [hname]

/-- A checker that is made for a segment, and kept. -/
theorem Keeps.register (h : Keeps separator kept base registry)
    (hbase : base.checker? segment = none) (hmade : made? separator segment base = some checker) :
    Keeps separator (kept ++ [segment]) base (registry.register segment checker) := by
  refine ⟨h.makers, fun name => ?_⟩
  rw [Registry.checker?_register]
  by_cases hname : name = segment
  · subst hname
    rw [if_pos rfl, hbase, Option.none_or, hmade, if_pos (by simp)]
  · rw [if_neg hname, h.checker?]
    simp [hname]

/-- A segment that is bound is kept, unless `base` has a checker of its text. -/
theorem Keeps.bindSegment_snd_of_ok (h : Keeps separator kept base registry) {check : BoundCheck}
    (hok : (bindSegment separator segment base).1 = .ok check) :
    Keeps separator (kept ++ [segment]) base (bindSegment separator segment registry).2 := by
  cases hreg : registry.checker? segment with
  | some checker =>
    rw [bindSegment_of_checker? hreg]
    exact h.of_checker? hreg
  | none =>
    have hbase : base.checker? segment = none := by
      rw [h.checker?] at hreg
      exact (Option.or_eq_none_iff.1 hreg).1
    have hcalls : call? separator segment registry = call? separator segment base :=
      call?_congr h.makers
    cases hcall : call? separator segment base with
    | none =>
      rw [bindSegment_of_no_call hbase hcall] at hok
      cases hok
    | some call =>
      obtain ⟨name, maker, argument⟩ := call
      rw [bindSegment_of_call hbase hcall] at hok
      rw [bindSegment_of_call hreg (hcalls.trans hcall)]
      cases hmake : maker.make argument with
      | error cause =>
        rw [hmake] at hok
        cases hok
      | ok checker =>
        have hmade := made?_eq_some_iff.2 ⟨name, maker, argument, hcall, hmake⟩
        exact (h.record segment maker true).register hbase hmade

/-- A segment that is not bound leaves the checkers and the makers as they are. -/
theorem Keeps.bindSegment_snd_of_error (h : Keeps separator kept base registry) {failure : Failure}
    (herr : (bindSegment separator segment registry).1 = .error failure) :
    Keeps separator kept base (bindSegment separator segment registry).2 := by
  cases hreg : registry.checker? segment with
  | some checker =>
    rw [bindSegment_of_checker? hreg] at herr
    cases herr
  | none =>
    cases hcall : call? separator segment registry with
    | none =>
      rw [bindSegment_of_no_call hreg hcall]
      exact h
    | some call =>
      obtain ⟨name, maker, argument⟩ := call
      rw [bindSegment_of_call hreg hcall] at herr ⊢
      cases hmake : maker.make argument with
      | error cause => exact h.record segment maker false
      | ok checker =>
        rw [hmake] at herr
        cases herr

/-! ## Reading a whole list -/

theorem bindAll_cons_of_error {failure : Failure} {registry' : Registry} (segments : List String)
    (h : bindSegment separator segment registry = (.error failure, registry')) :
    bindAll separator (segment :: segments) registry = (.error failure, registry') := by
  rw [bindAll, h]

theorem bindAll_cons_of_ok {check : BoundCheck} {registry' : Registry} (segments : List String)
    (h : bindSegment separator segment registry = (.ok check, registry')) :
    bindAll separator (segment :: segments) registry =
      ((bindAll separator segments registry').1.map (check :: ·),
        (bindAll separator segments registry').2) := by
  simp only [bindAll, h]
  rcases bindAll separator segments registry' with ⟨_ | _, _⟩ <;> rfl

/-- The segments of a list before the first one that cannot be bound. -/
def bindable (separator : String) (segments : List String) (registry : Registry) : List String :=
  segments.takeWhile fun segment => (bindSegment separator segment registry).1.isOk

/-- **A list is read alike** in a registry and in one that has grown from it, and what is kept in
reading it are the segments before the first one that cannot be bound. -/
theorem Keeps.bindAll (h : Keeps separator kept base registry) (segments : List String) :
    (bindAll separator segments registry).1 = (bindAll separator segments base).1 ∧
      Keeps separator (kept ++ bindable separator segments base) base
        (bindAll separator segments registry).2 := by
  induction segments generalizing kept registry with
  | nil => exact ⟨rfl, by simpa [bindable, CheckList.bindAll] using h⟩
  | cons segment segments ih =>
    have hfst := h.bindSegment_fst segment
    rcases hbase : bindSegment separator segment base with ⟨result, base'⟩
    rcases hreg : bindSegment separator segment registry with ⟨other, registry'⟩
    rw [hbase, hreg] at hfst
    obtain rfl : other = result := hfst
    cases other with
    | error failure =>
      have hkeeps := h.bindSegment_snd_of_error (congrArg Prod.fst hreg)
      rw [hreg] at hkeeps
      rw [bindAll_cons_of_error segments hbase, bindAll_cons_of_error segments hreg]
      exact ⟨rfl, by simpa [bindable, hbase, Except.isOk, Except.toBool] using hkeeps⟩
    | ok check =>
      have hok := congrArg Prod.fst hbase
      have hkeeps := h.bindSegment_snd_of_ok hok
      have hkeeps' := (Keeps.refl separator base).bindSegment_snd_of_ok hok
      rw [hreg] at hkeeps
      rw [hbase] at hkeeps'
      -- `base` has grown too, and the rest is read alike there and in `base` itself
      obtain ⟨hrest, hgrown⟩ := ih hkeeps
      obtain ⟨hrest', -⟩ := ih hkeeps'
      rw [bindAll_cons_of_ok segments hbase, bindAll_cons_of_ok segments hreg]
      refine ⟨by rw [hrest, hrest'], ?_⟩
      simpa [bindable, hbase, Except.isOk, Except.toBool] using hgrown

/-- **Reading a list is a recursion over its segments** and one registry: what the first segments
leave there makes no difference to the others. -/
theorem bindAll_cons_fst (separator segment : String) (segments : List String)
    (registry : Registry) :
    (bindAll separator (segment :: segments) registry).1 =
      match (bindSegment separator segment registry).1 with
      | .error failure => .error failure
      | .ok check => (bindAll separator segments registry).1.map (check :: ·) := by
  rcases h : bindSegment separator segment registry with ⟨result, registry'⟩
  cases result with
  | error failure => rw [bindAll_cons_of_error segments h]
  | ok check =>
    have hkeeps := (Keeps.refl separator registry).bindSegment_snd_of_ok (congrArg Prod.fst h)
    rw [h] at hkeeps
    rw [bindAll_cons_of_ok segments h, (hkeeps.bindAll segments).1]

/-- A list is read when each of its segments is bound. -/
theorem bindAll_eq_ok_iff {segments : List String} {checks : List BoundCheck} :
    (bindAll separator segments registry).1 = .ok checks ↔
      List.Forall₂ (fun segment check => (bindSegment separator segment registry).1 = .ok check)
        segments checks := by
  induction segments generalizing checks with
  | nil => cases checks <;> simp [bindAll]
  | cons segment segments ih =>
    rw [bindAll_cons_fst]
    cases h : (bindSegment separator segment registry).1 with
    | error failure => cases checks <;> simp [h]
    | ok check =>
      cases hrest : (bindAll separator segments registry).1 with
      | error failure => cases checks <;> simp [Except.map, h, ← ih, hrest]
      | ok rest => cases checks <;> simp [Except.map, h, ← ih, hrest]

/-- A list is not read when one of its segments is not bound, and fails with the first one. -/
theorem bindAll_eq_error_iff {segments : List String} {failure : Failure} :
    (bindAll separator segments registry).1 = .error failure ↔
      ∃ front segment back, segments = front ++ segment :: back ∧
        (∀ other ∈ front, ∃ check, (bindSegment separator other registry).1 = .ok check) ∧
        (bindSegment separator segment registry).1 = .error failure := by
  induction segments with
  | nil => simp [bindAll]
  | cons first rest ih =>
    rw [bindAll_cons_fst]
    constructor
    · intro h
      cases hfirst : (bindSegment separator first registry).1 with
      | error cause =>
        rw [hfirst] at h
        cases h
        exact ⟨[], first, rest, rfl, by simp, hfirst⟩
      | ok check =>
        rw [hfirst] at h
        have hrest : (bindAll separator rest registry).1 = .error failure := by
          cases hrest : (bindAll separator rest registry).1 with
          | error cause =>
            rw [hrest] at h
            cases h
            rfl
          | ok checks =>
            rw [hrest] at h
            cases h
        obtain ⟨front, segment, back, rfl, hfront, hsegment⟩ := ih.1 hrest
        refine ⟨first :: front, segment, back, rfl, fun other hother => ?_, hsegment⟩
        rcases List.mem_cons.1 hother with rfl | hother
        · exact ⟨check, hfirst⟩
        · exact hfront other hother
    · rintro ⟨front, segment, back, heq, hfront, hsegment⟩
      cases front with
      | nil =>
        obtain ⟨rfl, rfl⟩ := List.cons.inj heq
        rw [hsegment]
      | cons other front =>
        obtain ⟨rfl, rfl⟩ := List.cons.inj heq
        obtain ⟨check, hcheck⟩ := hfront first List.mem_cons_self
        rw [hcheck, ih.2 ⟨front, segment, back, rfl,
          fun other hother => hfront other (List.mem_cons_of_mem _ hother), hsegment⟩]
        rfl

end CheckList

end FieldChecks
