import FieldChecks.Proofs.CheckList.Grammar
import FieldChecks.Proofs.Validation.History

/-!
# Validation — what a request adds to the registry

A request leaves the makers of a validator as they are, and its checkers
too; all that it can do is add some. This file says which: it names the
lists that a request reads (`Validator.Reads`), and what each of them adds
(`CheckList.Adds`), in terms of the registry that the request starts with.
A list that is not read adds nothing, be it behind the first violation,
at a value that does not resolve, or in or below a field that is not
public.
-/

namespace FieldChecks

/-! ## What a list adds -/

namespace CheckList

variable {separator segment : String} {registry : Registry}

/-- **A list adds a checker** under the text of one of its segments: the registry has none there,
every segment before it stands for something, and the maker that it calls makes the checker. -/
def Adds (config : Config) (registry : Registry) (list segment : String) (checker : Checker) :
    Prop :=
  registry.checker? segment = none ∧
    ∃ front back, segments config.checkSeparator list = front ++ segment :: back ∧
      (∀ other ∈ front, ∃ check, Binds config.argumentSeparator registry other check) ∧
      ∃ name maker argument, Calls config.argumentSeparator segment registry name maker argument ∧
        maker.make argument = .ok checker

theorem isOk_bindSegment_iff :
    (bindSegment separator segment registry).1.isOk ↔
      ∃ check, Binds separator registry segment check := by
  simp only [← bindSegment_eq_ok_iff]
  cases (bindSegment separator segment registry).1 with
  | error failure => simp [Except.isOk, Except.toBool]
  | ok check => simp [Except.isOk, Except.toBool]

/-- What holds of the members that are taken holds up to each of them. -/
theorem mem_takeWhile_iff {α : Type} {p : α → Bool} {as : List α} {a : α} :
    a ∈ as.takeWhile p ↔ ∃ front back, as = front ++ a :: back ∧ (∀ b ∈ front, p b) ∧ p a := by
  induction as with
  | nil => simp
  | cons b as ih =>
    by_cases hb : p b
    · rw [List.takeWhile_cons_of_pos hb, List.mem_cons, ih]
      constructor
      · rintro (rfl | ⟨front, back, rfl, hfront, ha⟩)
        · exact ⟨[], as, rfl, by simp, hb⟩
        · exact ⟨b :: front, back, rfl, List.forall_mem_cons.2 ⟨hb, hfront⟩, ha⟩
      · rintro ⟨front, back, heq, hfront, ha⟩
        cases front with
        | nil => exact .inl (List.cons.inj heq).1.symm
        | cons c front =>
          obtain ⟨rfl, rfl⟩ := List.cons.inj heq
          exact .inr ⟨front, back, rfl, (List.forall_mem_cons.1 hfront).2, ha⟩
    · rw [List.takeWhile_cons_of_neg hb]
      constructor
      · intro h
        cases h
      · rintro ⟨front, back, heq, hfront, ha⟩
        cases front with
        | nil => exact absurd ((List.cons.inj heq).1 ▸ ha) hb
        | cons c front =>
          obtain ⟨rfl, rfl⟩ := List.cons.inj heq
          exact absurd (hfront b List.mem_cons_self) hb

/-- The segments that are bound are those that stand for something, as do all before them. -/
theorem mem_bindable_iff {segments : List String} :
    segment ∈ bindable separator segments registry ↔
      ∃ front back, segments = front ++ segment :: back ∧
        (∀ other ∈ front, ∃ check, Binds separator registry other check) ∧
        ∃ check, Binds separator registry segment check := by
  rw [bindable, mem_takeWhile_iff]
  simp only [isOk_bindSegment_iff]

/-- **What a list adds is made for the segments that are bound.** -/
theorem adds_iff {config : Config} {list : String} {checker : Checker} :
    Adds config registry list segment checker ↔ registry.checker? segment = none ∧
      segment ∈ bindable config.argumentSeparator (segments config.checkSeparator list) registry ∧
      made? config.argumentSeparator segment registry = some checker := by
  rw [Adds, mem_bindable_iff, made?_eq_some_iff]
  simp only [call?_eq_some_iff_calls]
  refine and_congr_right fun hnone => ?_
  constructor
  · rintro ⟨front, back, heq, hfront, name, maker, argument, hcall, hmake⟩
    have hbinds := Binds.made hnone hcall hmake
    exact ⟨⟨front, back, heq, hfront, _, hbinds⟩, name, maker, argument, hcall, hmake⟩
  · rintro ⟨⟨front, back, heq, hfront, -⟩, hmade⟩
    exact ⟨front, back, heq, hfront, hmade⟩

end CheckList

/-! ## The lists that are read -/

variable {config : Config} {registry : Registry}

/-- A list is read along a line of stations: it is there for a value, it is not blank, and nothing
is wrong at the stations before. -/
def ReadAlong (config : Config) (registry : Registry) (stations : List Station) (list : String) :
    Prop :=
  ∃ before station after resolved, stations = before ++ station :: after ∧
    (∀ earlier ∈ before, earlier.failures config registry = []) ∧
    station.encounter = .value list resolved ∧ ¬ Text.isBlank list

theorem Station.mem_bound_iff {station : Station} {segment : String} :
    segment ∈ station.bound config registry ↔ ∃ list resolved,
      station.encounter = .value list resolved ∧ ¬ Text.isBlank list ∧
      segment ∈ CheckList.bindable config.argumentSeparator
        (CheckList.segments config.checkSeparator list) registry := by
  obtain ⟨scope, encounter⟩ := station
  cases encounter with
  | unresolved => simp [Station.bound]
  | hidden => simp [Station.bound]
  | value list resolved => by_cases hblank : Text.isBlank list <;> simp [Station.bound, hblank]

/-- **The segments bound along a line of stations** are those bound of the lists that are read. -/
theorem mem_boundAlong_iff {stations : List Station} {segment : String} :
    segment ∈ boundAlong config registry stations ↔ ∃ list,
      ReadAlong config registry stations list ∧
      segment ∈ CheckList.bindable config.argumentSeparator
        (CheckList.segments config.checkSeparator list) registry := by
  induction stations with
  | nil => simp [boundAlong, ReadAlong]
  | cons first rest ih =>
    rw [boundAlong, List.mem_append, Station.mem_bound_iff]
    constructor
    · rintro (⟨list, resolved, hvalue, hblank, hmem⟩ | hrest)
      · exact ⟨list, ⟨[], first, rest, resolved, rfl, by simp, hvalue, hblank⟩, hmem⟩
      · -- the rest is come to only if nothing is wrong at the first station
        split at hrest
        · rename_i hempty
          have hnil : first.failures config registry = [] := List.isEmpty_iff.1 hempty
          obtain ⟨list, ⟨before, station, after, resolved, rfl, hbefore, hvalue⟩, hmem⟩ :=
            ih.1 hrest
          have hall : ∀ earlier ∈ first :: before, earlier.failures config registry = [] :=
            List.forall_mem_cons.2 ⟨hnil, hbefore⟩
          exact ⟨list, ⟨first :: before, station, after, resolved, rfl, hall, hvalue⟩, hmem⟩
        · cases hrest
    · rintro ⟨list, ⟨before, station, after, resolved, heq, hbefore, hvalue, hblank⟩, hmem⟩
      cases before with
      | nil =>
        obtain ⟨rfl, rfl⟩ := List.cons.inj heq
        exact .inl ⟨list, resolved, hvalue, hblank, hmem⟩
      | cons earlier before =>
        obtain ⟨rfl, rfl⟩ := List.cons.inj heq
        obtain ⟨hnil, hrest⟩ := List.forall_mem_cons.1 hbefore
        rw [hnil]
        exact .inr (ih.2 ⟨list, ⟨before, station, after, resolved, rfl, hrest, hvalue, hblank⟩,
          hmem⟩)

namespace Validator

/-- **The lists that a request reads.** A validation reads those of the places of the value, in the
order of a walk, up to the first place where something is wrong. -/
def Reads (validator : Validator) : Request → String → Prop
  | .validate value lists => ReadAlong validator.config validator.registry
      (stations validator.config [] (validator.config.checkSeparator.intercalate lists) value)
  | .checkValue value list =>
      ReadAlong validator.config validator.registry (stations validator.config [] list value)
  | .read list => (· = list)

theorem mem_bound_iff {validator : Validator} {request : Request} {segment : String} :
    segment ∈ validator.bound request ↔ ∃ list, validator.Reads request list ∧
      segment ∈ CheckList.bindable validator.config.argumentSeparator
        (CheckList.segments validator.config.checkSeparator list) validator.registry := by
  cases request with
  | validate value lists => exact mem_boundAlong_iff
  | checkValue value list => exact mem_boundAlong_iff
  | read list => simp [bound, Reads]

/-- **The frame of a request.** Whatever it comes to, it changes neither the configuration nor the
makers, and it leaves exactly the checkers that were there and those that the lists it reads add. -/
theorem serve_frame (validator : Validator) (request : Request) :
    let served := (validator.serve request).2
    served.config = validator.config ∧ served.registry.makers = validator.registry.makers ∧
      ∀ segment checker, served.registry.checker? segment = some checker ↔
        validator.registry.checker? segment = some checker ∨
          ∃ list, validator.Reads request list ∧
            CheckList.Adds validator.config validator.registry list segment checker := by
  intro served
  obtain ⟨-, hconfig, hmakers, hcheckers⟩ := (Grown.refl validator).serve request
  refine ⟨hconfig, hmakers, fun segment checker => ?_⟩
  rw [hcheckers, Option.or_eq_some_iff, List.nil_append]
  refine or_congr_right ?_
  simp only [CheckList.adds_iff]
  constructor
  · rintro ⟨hnone, hmade⟩
    split at hmade
    · rename_i hmem
      obtain ⟨list, hreads, hbound⟩ := mem_bound_iff.1 hmem
      exact ⟨list, hreads, hnone, hbound, hmade⟩
    · cases hmade
  · rintro ⟨list, hreads, hnone, hbound, hmade⟩
    rw [if_pos (mem_bound_iff.2 ⟨list, hreads, hbound⟩)]
    exact ⟨hnone, hmade⟩

end Validator

end FieldChecks
