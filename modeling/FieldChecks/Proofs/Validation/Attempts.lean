import FieldChecks.Proofs.Registry.Events
import FieldChecks.Proofs.Validation.History

/-!
# Validation — the checkers that a request asks for

A request changes the registry only by asking it for the checkers of
segments. This file lists the segments that it comes to
(`Validator.attempted`): those of each list up to the first one that
cannot be bound, and the lists up to the first violation. Each of them
that is written as a call is one event, and these events are all that
happens to the registry, its account included (`Validator.serve_snd`).

What the segments come to is told by the registry before the request,
since nothing that it binds can be seen by what it binds later
(`CheckList.Keeps`).
-/

namespace FieldChecks

variable {config : Config} {base registry : Registry} {kept : List String}

/-! ## Lists -/

namespace CheckList

variable {separator segment : String}

/-- What happens to a registry when a segment is bound: if it is written as a call, its checker is
asked for. -/
def asks? (separator segment : String) : Option Event :=
  (invocation? separator segment).map fun (maker, argument) =>
    .materialize segment maker argument

/-- The segments of a list up to and with the first one that cannot be bound. -/
def attempted (separator : String) (registry : Registry) : List String → List String
  | [] => []
  | segment :: segments => segment ::
    if (bindSegment separator segment registry).1.isOk then attempted separator registry segments
    else []

/-- The events of some segments. -/
def askings (separator : String) (segments : List String) : List Event :=
  segments.filterMap (asks? separator)

theorem askings_append (separator : String) (before after : List String) :
    askings separator (before ++ after) = askings separator before ++ askings separator after :=
  List.filterMap_append

/-- **A segment.** -/
theorem bindSegment_snd (separator segment : String) (registry : Registry) :
    (bindSegment separator segment registry).2 =
      registry.replay (askings separator [segment]) := by
  unfold bindSegment askings asks?
  cases hinvocation : invocation? separator segment with
  | none =>
    cases registry.checker? segment <;> simp [hinvocation, Registry.replay]
  | some call =>
    obtain ⟨maker, argument⟩ := call
    have hreplay : registry.replay [.materialize segment maker argument] =
        (registry.materialize segment maker argument).2 := rfl
    simp only [List.filterMap_cons, hinvocation, Option.map_some, List.filterMap_nil, hreplay]
    cases hchecker : registry.checker? segment with
    | some checker =>
      -- a checker that is there is found without being asked for, and asking changes nothing
      simp [Registry.materialize, hchecker]
    | none =>
      rcases registry.materialize segment maker argument with ⟨_ | _, _⟩ <;> rfl

/-- **The segments of a list.** -/
theorem Keeps.bindAll_snd (h : Keeps separator kept base registry) (segments : List String) :
    (CheckList.bindAll separator segments registry).2 =
      registry.replay (askings separator (attempted separator base segments)) := by
  induction segments generalizing kept registry with
  | nil => rfl
  | cons segment segments ih =>
    have hfst := h.bindSegment_fst segment
    have hsnd := bindSegment_snd separator segment registry
    rcases hreg : bindSegment separator segment registry with ⟨result, registry'⟩
    rw [hreg] at hfst hsnd
    rw [attempted, ← hfst]
    cases result with
    | error failure =>
      rw [bindAll_cons_of_error segments hreg]
      exact hsnd
    | ok check =>
      have hkeeps := h.bindSegment_snd_of_ok hfst.symm
      rw [hreg] at hkeeps
      have happend := askings_append separator [segment] (attempted separator base segments)
      rw [bindAll_cons_of_ok segments hreg]
      simp only [Except.isOk, Except.toBool, if_true]
      rw [← List.singleton_append, happend, Registry.replay_append, ← hsnd]
      exact ih hkeeps

end CheckList

/-! ## Stations -/

/-- The segments that are attempted at a station. -/
def Station.attempted (config : Config) (registry : Registry) (station : Station) : List String :=
  match station.encounter with
  | .value list _ =>
    if Text.isBlank list then []
    else CheckList.attempted config.argumentSeparator registry
      (CheckList.segments config.checkSeparator list)
  | .unresolved | .hidden => []

/-- The segments that are attempted along some stations, up to the first one where something is
wrong. -/
def attemptedAlong (config : Config) (registry : Registry) : List Station → List String
  | [] => []
  | station :: stations => station.attempted config registry ++
    if (station.failures config registry).isEmpty then attemptedAlong config registry stations
    else []

theorem checkResolved_snd (h : CheckList.Keeps config.argumentSeparator kept base registry)
    (scope : List String) (list : String) (value : Value) :
    (checkResolved config list value registry).2 =
      registry.replay (CheckList.askings config.argumentSeparator
        (Station.attempted config base ⟨scope, .value list value⟩)) := by
  unfold checkResolved Station.attempted
  by_cases hblank : Text.isBlank list
  · simp only [hblank, if_true]
    rfl
  · simp only [hblank, Bool.false_eq_true, if_false]
    rw [← h.bindAll_snd, ← CheckList.read]
    rcases CheckList.read config list registry with ⟨_ | checks, registry'⟩
    · rfl
    · dsimp only
      cases runChecks config value.isZero value checks <;> rfl

/-- **A station.** -/
theorem Station.visit_snd (h : CheckList.Keeps config.argumentSeparator kept base registry)
    (station : Station) :
    (station.visit config registry).2 = registry.replay
      (CheckList.askings config.argumentSeparator (station.attempted config base)) := by
  obtain ⟨scope, encounter⟩ := station
  cases encounter with
  | unresolved => rfl
  | hidden => rfl
  | value list resolved => exact checkResolved_snd h scope list resolved

/-- **A line of stations.** -/
theorem visitAll_snd (h : CheckList.Keeps config.argumentSeparator kept base registry)
    (stations : List Station) :
    (visitAll config stations registry).2 = registry.replay
      (CheckList.askings config.argumentSeparator (attemptedAlong config base stations)) := by
  induction stations generalizing kept registry with
  | nil => rfl
  | cons station stations ih =>
    obtain ⟨hfst, hkeeps⟩ := station.visit_keeps h
    have hsnd := station.visit_snd h
    rw [visitAll, attemptedAlong, CheckList.askings_append, Registry.replay_append, ← hsnd]
    rcases hvisit : station.visit config registry with ⟨result, registry'⟩
    rw [hvisit] at hfst hkeeps
    cases hfailures : station.failures config base with
    | nil =>
      rw [Station.violations, hfailures] at hfst
      obtain rfl : result = .ok () := hfst
      exact ih hkeeps
    | cons failure failures =>
      rw [Station.violations, hfailures] at hfst
      obtain rfl : result = .error ⟨station.scope, failure⟩ := hfst
      rfl

/-! ## Requests -/

namespace Validator

/-- The segments that a request comes to. -/
def attempted (validator : Validator) : Request → List String
  | .validate value lists => attemptedAlong validator.config validator.registry
      (stations validator.config [] (validator.config.checkSeparator.intercalate lists) value)
  | .checkValue value list =>
      attemptedAlong validator.config validator.registry (stations validator.config [] list value)
  | .read list => CheckList.attempted validator.config.argumentSeparator validator.registry
      (CheckList.segments validator.config.checkSeparator list)

/-- What happens to the registry in a request. -/
def events (validator : Validator) (request : Request) : List Event :=
  CheckList.askings validator.config.argumentSeparator (validator.attempted request)

/-- **A request.** -/
theorem serve_snd (validator : Validator) (request : Request) :
    (validator.serve request).2.registry = validator.registry.replay (validator.events request) := by
  have hkeeps := CheckList.Keeps.refl validator.config.argumentSeparator validator.registry
  have hwalk : ∀ value list, (validator.checkValue value list).2.registry =
      validator.registry.replay (validator.events (.checkValue value list)) := by
    intro value list
    rw [checkValue, walkWithin_eq_visitAll]
    exact visitAll_snd hkeeps _
  cases request with
  | validate value lists => exact hwalk value _
  | checkValue value list => exact hwalk value list
  | read list => exact hkeeps.bindAll_snd _

end Validator

end FieldChecks
