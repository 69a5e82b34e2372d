import FieldChecks.Checks.Catalog
import FieldChecks.Proofs.Validation.Attempts

/-!
# Registries — what holds of one after any run

A run is any sequence of operations on a registry that starts empty:
registrations, of the built-in checks too, direct calls for the checker
of a segment, and requests of validators that share the registry. An
operation is some events (`perform_eq_replay`), so a run is its history,
and the laws of events become laws of runs.
-/

namespace FieldChecks

/-! ## Operations -/

/-- What can be done with a registry. -/
inductive Operation where
  /-- To register a checker, which others may share. -/
  | register (name : String) (checker : Checker)
  /-- To register a maker. -/
  | registerMaker (name : String) (maker : Maker)
  /-- To register the built-in checkers and makers. -/
  | registerBuiltIns
  /-- To ask for the checker of a segment. -/
  | materialize (segment maker argument : String)
  /-- To serve a request under a configuration. -/
  | request (config : Config) (request : Request)

/-- The checkers that are registered. -/
def Operation.checkers : Operation → List (String × Checker)
  | .register name checker => [(name, checker)]
  | .registerBuiltIns => builtInCheckers
  | .registerMaker _ _ | .materialize _ _ _ | .request _ _ => []

/-- The makers that are registered. -/
def Operation.makers : Operation → List (String × Maker)
  | .registerMaker name maker => [(name, maker)]
  | .registerBuiltIns => builtInMakers
  | .register _ _ | .materialize _ _ _ | .request _ _ => []

namespace Registry

/-- The registry after an operation. -/
def perform (registry : Registry) : Operation → Registry
  | .register name checker => registry.register name checker
  | .registerMaker name maker => registry.registerMaker name maker
  | .registerBuiltIns => registry.withBuiltIns
  | .materialize segment maker argument => (registry.materialize segment maker argument).2
  | .request config request => (Validator.serve ⟨config, registry⟩ request).2.registry

/-- The registry after a run. -/
def run (operations : List Operation) : Registry :=
  operations.foldl perform empty

/-- What happens to a registry in an operation. -/
def events (registry : Registry) : Operation → List Event
  | .register name checker => [.register name checker]
  | .registerMaker name maker => [.registerMaker name maker]
  | .registerBuiltIns => builtInCheckers.map (fun (name, checker) => .register name checker) ++
      builtInMakers.map fun (name, maker) => .registerMaker name maker
  | .materialize segment maker argument => [.materialize segment maker argument]
  | .request config request => Validator.events ⟨config, registry⟩ request

/-- What happens to a registry in some operations. -/
def history (registry : Registry) : List Operation → List Event
  | [] => []
  | operation :: operations =>
    registry.events operation ++ (registry.perform operation).history operations

/-! ## Operations are events -/

/-- **An operation is its events.** -/
theorem perform_eq_replay (registry : Registry) (operation : Operation) :
    registry.perform operation = registry.replay (registry.events operation) := by
  cases operation with
  | register name checker => rfl
  | registerMaker name maker => rfl
  | registerBuiltIns =>
    rw [perform, events, replay_append, replay, List.foldl_map, replay, List.foldl_map]
    rfl
  | materialize segment maker argument => rfl
  | request config request => exact Validator.serve_snd ⟨config, registry⟩ request

/-- **Some operations are their history.** -/
theorem foldl_perform_eq_replay (registry : Registry) (operations : List Operation) :
    operations.foldl perform registry = registry.replay (registry.history operations) := by
  induction operations generalizing registry with
  | nil => rfl
  | cons operation operations ih =>
    rw [List.foldl_cons, ih, history, replay_append, ← perform_eq_replay]

/-- The segments that a list asks for are not registered. -/
theorem filterMap_askings {α : Type} {select : Event → Option (String × α)}
    (h : ∀ segment maker argument, select (.materialize segment maker argument) = none)
    (separator : String) (segments : List String) :
    (CheckList.askings separator segments).filterMap select = [] := by
  rw [CheckList.askings, List.filterMap_filterMap, List.filterMap_eq_nil_iff]
  intro segment _
  unfold CheckList.asks?
  cases CheckList.invocation? separator segment with
  | none => rfl
  | some call => exact h segment call.1 call.2

theorem filterMap_map_eq_self {α : Type} {select : Event → Option α} {event : α → Event}
    (h : ∀ a, select (event a) = some a) (entries : List α) :
    (entries.map event).filterMap select = entries := by
  have hselect : select ∘ event = some := funext h
  rw [List.filterMap_map, hselect, List.filterMap_some]

theorem filterMap_map_eq_nil {α β : Type} {select : Event → Option β} {event : α → Event}
    (h : ∀ a, select (event a) = none) (entries : List α) :
    (entries.map event).filterMap select = [] := by
  rw [List.filterMap_map]
  exact List.filterMap_eq_nil_iff.2 fun a _ => h a

/-- The checkers that are registered in the events of an operation are those of the operation. -/
theorem filterMap_checker?_events (registry : Registry) (operation : Operation) :
    (registry.events operation).filterMap Event.checker? = operation.checkers := by
  cases operation with
  | register name checker => rfl
  | registerMaker name maker => rfl
  | registerBuiltIns =>
    have hcheckers : (builtInCheckers.map fun (name, checker) =>
        Event.register name checker).filterMap Event.checker? = builtInCheckers := by
      refine filterMap_map_eq_self ?_ _
      rintro ⟨name, checker⟩
      rfl
    have hmakers : (builtInMakers.map fun (name, maker) =>
        Event.registerMaker name maker).filterMap Event.checker? = [] :=
      filterMap_map_eq_nil (fun _ => rfl) _
    rw [events, List.filterMap_append, hcheckers, hmakers, List.append_nil, Operation.checkers]
  | materialize segment maker argument => rfl
  | request config request => exact filterMap_askings (fun _ _ _ => rfl) _ _

/-- The makers that are registered in the events of an operation are those of the operation. -/
theorem filterMap_maker?_events (registry : Registry) (operation : Operation) :
    (registry.events operation).filterMap Event.maker? = operation.makers := by
  cases operation with
  | register name checker => rfl
  | registerMaker name maker => rfl
  | registerBuiltIns =>
    have hcheckers : (builtInCheckers.map fun (name, checker) =>
        Event.register name checker).filterMap Event.maker? = [] :=
      filterMap_map_eq_nil (fun _ => rfl) _
    have hmakers : (builtInMakers.map fun (name, maker) =>
        Event.registerMaker name maker).filterMap Event.maker? = builtInMakers := by
      refine filterMap_map_eq_self ?_ _
      rintro ⟨name, maker⟩
      rfl
    rw [events, List.filterMap_append, hcheckers, hmakers, List.nil_append, Operation.makers]
  | materialize segment maker argument => rfl
  | request config request => exact filterMap_askings (fun _ _ _ => rfl) _ _

/-- What is registered in a history is what its operations register. -/
theorem filterMap_history {α : Type} {select : Event → Option α}
    {registered : Operation → List α}
    (h : ∀ registry operation, (events registry operation).filterMap select = registered operation)
    (registry : Registry) (operations : List Operation) :
    (registry.history operations).filterMap select = operations.flatMap registered := by
  induction operations generalizing registry with
  | nil => rfl
  | cons operation operations ih =>
    rw [history, List.filterMap_append, h, ih, List.flatMap_cons]

/-! ## Runs -/

theorem run_eq_replay (operations : List Operation) :
    run operations = empty.replay (empty.history operations) :=
  foldl_perform_eq_replay empty operations

/-- A longer run. -/
theorem run_append (before after : List Operation) :
    run (before ++ after) = (run before).replay ((run before).history after) := by
  rw [run, List.foldl_append, ← run, foldl_perform_eq_replay]

/-- **What a run comes to.** -/
structure Chronicle (operations : List Operation) : Prop where
  /-- The registry is what its history makes of an empty one. -/
  run_eq : run operations = empty.replay (empty.history operations)
  /-- No name disappears. -/
  names_subset : ∀ before after, operations = before ++ after →
    (run before).checkers.names ⊆ (run operations).checkers.names ∧
      (run before).makers.names ⊆ (run operations).makers.names
  /-- Under a name is the checker that was registered last, if any was; or else the one that was
  handed out first. -/
  checker?_eq : ∀ name, (run operations).checker? name =
    (lastOf (operations.flatMap Operation.checkers) name).or
      ((empty.answers (empty.history operations)).lookup name)
  /-- It stays there, whatever makers are registered, until another one is registered. -/
  checker?_stays : ∀ before after name checker, operations = before ++ after →
    (run before).checker? name = some checker →
    name ∉ (after.flatMap Operation.checkers).map Prod.fst →
    (run operations).checker? name = some checker
  /-- Under a name is the maker that was registered last. -/
  maker?_eq : ∀ name,
    (run operations).maker? name = lastOf (operations.flatMap Operation.makers) name
  /-- For each segment a call to a maker has success once at most. -/
  accepted_le_one : ∀ segment, ((run operations).makingsOf segment).countP (·.accepted) ≤ 1
  /-- No maker is called for a segment once its checker is there. -/
  makingsOf_stays : ∀ before after segment, empty.history operations = before ++ after →
    ((empty.replay before).checker? segment).isSome →
    (run operations).makingsOf segment = (empty.replay before).makingsOf segment
  /-- Until then the maker is called each time, also if it has refused the argument before. -/
  makingsOf_step : ∀ before after segment name argument maker,
    empty.history operations = before ++ .materialize segment name argument :: after →
    (empty.replay before).checker? segment = none →
    (empty.replay before).maker? name = some maker →
    (empty.replay (before ++ [.materialize segment name argument])).makingsOf segment =
      ⟨some segment, maker.isBuiltIn, (maker.make argument).isOk⟩ ::
        (empty.replay before).makingsOf segment
  /-- The names of the checkers are listed in order, each once, and their number is the size. -/
  names_checkers : (run operations).checkers.names.Pairwise (· < ·) ∧
    (∀ name, name ∈ (run operations).checkers.names ↔
      ((run operations).checker? name).isSome) ∧
    (run operations).checkers.size = (run operations).checkers.names.length
  /-- So are the names of the makers. -/
  names_makers : (run operations).makers.names.Pairwise (· < ·) ∧
    (∀ name, name ∈ (run operations).makers.names ↔ ((run operations).maker? name).isSome) ∧
    (run operations).makers.size = (run operations).makers.names.length
  /-- The registry is empty if there are no names at all. -/
  isEmpty_iff : (run operations).isEmpty ↔
    (run operations).checkers.names = [] ∧ (run operations).makers.names = []

/-- **Every run keeps to its chronicle.** -/
theorem run_chronicle (operations : List Operation) : Chronicle operations := by
  have hcheckers : ∀ (registry : Registry) (operations : List Operation),
      (registry.history operations).filterMap Event.checker? =
        operations.flatMap Operation.checkers :=
    filterMap_history filterMap_checker?_events
  have hmakers := filterMap_history filterMap_maker?_events empty operations
  refine ⟨run_eq_replay operations, ?names_subset, ?checker?_eq, ?checker?_stays, ?maker?_eq,
    ?accepted_le_one, ?makingsOf_stays, ?makingsOf_step, ?names_checkers, ?names_makers,
    ?isEmpty_iff⟩
  case names_subset =>
    rintro before after rfl
    rw [run_append]
    refine ⟨fun name hname => ?_, fun name hname => ?_⟩
    · rw [Table.mem_names_iff] at hname ⊢
      exact isSome_checker?_replay _ hname
    · rw [Table.mem_names_iff] at hname ⊢
      exact isSome_maker?_replay _ hname
  case checker?_eq =>
    intro name
    rw [run_eq_replay, checker?_replay, hcheckers]
    rfl
  case checker?_stays =>
    rintro before after name checker rfl hfound hafter
    rw [run_append]
    refine checker?_replay_of_not_registered hfound fun other hother => hafter ?_
    rw [← hcheckers (run before), List.mem_map]
    exact ⟨(name, other), List.mem_filterMap.2 ⟨_, hother, rfl⟩, rfl⟩
  case maker?_eq =>
    intro name
    rw [run_eq_replay, maker?_replay, hmakers]
    exact Option.or_none
  case accepted_le_one =>
    rw [run_eq_replay]
    exact (Frugal.empty.replay _).accepted_le_one
  case makingsOf_stays =>
    intro before after segment hhistory hsome
    rw [run_eq_replay, hhistory, replay_append]
    exact makingsOf_replay_of_checker? hsome after
  case makingsOf_step =>
    intro before after segment name argument maker _ hnone hmaker
    rw [replay_append]
    exact makingsOf_step_of_no_checker hnone hmaker
  case names_checkers =>
    exact ⟨(run operations).checkers.ascending, fun _ => Table.mem_names_iff,
      (run operations).checkers.size_eq_length_names⟩
  case names_makers =>
    exact ⟨(run operations).makers.ascending, fun _ => Table.mem_names_iff,
      (run operations).makers.size_eq_length_names⟩
  case isEmpty_iff =>
    rw [isEmpty, Bool.and_eq_true, Table.isEmpty_iff, Table.isEmpty_iff]

/-- A segment that is read twice calls its maker once; one that is refused calls it again. -/
example : (run [.registerBuiltIns, .request {} (.read "min:3"),
    .request {} (.read "min:3, regex:("), .request {} (.read "regex:(")]).makings =
      [⟨some "regex:(", true, false⟩, ⟨some "regex:(", true, false⟩,
        ⟨some "min:3", true, true⟩] := by
  decide +kernel

end Registry

end FieldChecks
