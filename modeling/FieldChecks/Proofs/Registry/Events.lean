import FieldChecks.Proofs.Registry.Lookup

/-!
# Registries — what happens to one

Whatever is done to a registry comes down to three kinds of events: a
checker is registered, a maker is registered, or the checker of a segment
is asked for. The last kind is the one with a memory. A maker is called
only while there is no checker under the segment's text, and once it has
made one that checker is there.

For each of these facts there is a lemma about one event and, by
induction, one about any number of them (`checker?_replay`,
`maker?_replay`, `makingsOf_replay_of_checker?`, `Frugal.replay`).
-/

namespace FieldChecks

/-- What can happen to a registry. -/
inductive Event where
  /-- A checker is registered under a name. -/
  | register (name : String) (checker : Checker)
  /-- A maker is registered under a name. -/
  | registerMaker (name : String) (maker : Maker)
  /-- The checker is asked for of a segment that calls a maker with an argument. -/
  | materialize (segment maker argument : String)

/-- The checker that is registered, and its name. -/
def Event.checker? : Event → Option (String × Checker)
  | .register name checker => some (name, checker)
  | .registerMaker _ _ | .materialize _ _ _ => none

/-- The maker that is registered, and its name. -/
def Event.maker? : Event → Option (String × Maker)
  | .registerMaker name maker => some (name, maker)
  | .register _ _ | .materialize _ _ _ => none

/-- The last of the entries under a name. -/
def lastOf {α : Type} (entries : List (String × α)) (name : String) : Option α :=
  entries.reverse.lookup name

theorem lastOf_cons {α : Type} (other : String) (a : α) (entries : List (String × α))
    (name : String) :
    lastOf ((other, a) :: entries) name =
      (lastOf entries name).or (if name = other then some a else none) := by
  rw [lastOf, List.reverse_cons, List.lookup_append, Table.lookup_cons]
  rfl

/-- The last entry among those of some events: one of the later events, or else of the first. -/
theorem lastOf_filterMap_cons {α : Type} (select : Event → Option (String × α)) (event : Event)
    (events : List Event) (name : String) :
    lastOf ((event :: events).filterMap select) name =
      (lastOf (events.filterMap select) name).or (lastOf (select event).toList name) := by
  cases hentry : select event with
  | none =>
    rw [List.filterMap_cons_none hentry]
    exact (Option.or_none).symm
  | some entry =>
    rw [List.filterMap_cons_some hentry, Option.toList_some, lastOf_cons, lastOf_cons]
    rfl

namespace Registry

/-- The registry after an event. -/
def step (registry : Registry) : Event → Registry
  | .register name checker => registry.register name checker
  | .registerMaker name maker => registry.registerMaker name maker
  | .materialize segment maker argument => (registry.materialize segment maker argument).2

/-- The registry after some events. -/
def replay (registry : Registry) (events : List Event) : Registry :=
  events.foldl step registry

/-- The checker that is handed out in an event, and the segment it is asked for. -/
def answer? (registry : Registry) : Event → Option (String × Checker)
  | .materialize segment maker argument =>
    (registry.materialize segment maker argument).1.toOption.map (segment, ·)
  | .register _ _ | .registerMaker _ _ => none

/-- The checkers that are handed out in some events, with their segments. -/
def answers (registry : Registry) : List Event → List (String × Checker)
  | [] => []
  | event :: events => (registry.answer? event).toList ++ (registry.step event).answers events

/-- The call to a maker in an event: none if the checker that is asked for is there already, or if
there is no maker of the name. -/
def making? (registry : Registry) : Event → Option Making
  | .materialize segment maker argument => match registry.checker? segment with
    | some _ => none
    | none => (registry.maker? maker).map fun found =>
      ⟨some segment, found.isBuiltIn, (found.make argument).isOk⟩
  | .register _ _ | .registerMaker _ _ => none

/-- The calls to makers for a segment, the last one first. -/
def makingsOf (registry : Registry) (segment : String) : List Making :=
  registry.makings.filter (·.segment = some segment)

theorem replay_append (registry : Registry) (before after : List Event) :
    registry.replay (before ++ after) = (registry.replay before).replay after :=
  List.foldl_append

/-! ## Asking for the checker of a segment -/

section Materialize

variable (registry : Registry) (segment maker argument : String)

/-- **The three things that asking for a checker can come to**: it is there, or there is no maker,
or the maker is called. -/
theorem materialize_cases :
    (∃ checker, registry.checker? segment = some checker ∧
      registry.materialize segment maker argument = (.ok checker, registry)) ∨
    (registry.checker? segment = none ∧ registry.maker? maker = none ∧
      registry.materialize segment maker argument = (.error (.unknownChecker segment), registry)) ∨
    ∃ found, registry.checker? segment = none ∧ registry.maker? maker = some found ∧
      registry.materialize segment maker argument =
        registry.makeChecker segment found argument := by
  unfold materialize
  cases hchecker : registry.checker? segment with
  | some checker => exact .inl ⟨checker, rfl, rfl⟩
  | none =>
    cases hmaker : registry.maker? maker with
    | none => exact .inr (.inl ⟨rfl, rfl, rfl⟩)
    | some found => exact .inr (.inr ⟨found, rfl, rfl, rfl⟩)

/-- The checker that is handed out is there from then on; nothing else changes. -/
theorem checker?_materialize (name : String) :
    (registry.materialize segment maker argument).2.checker? name =
      (registry.checker? name).or (if name = segment then
        (registry.materialize segment maker argument).1.toOption else none) := by
  rcases registry.materialize_cases segment maker argument with
    ⟨checker, hchecker, heq⟩ | ⟨-, -, heq⟩ | ⟨found, hchecker, -, heq⟩
  · rw [heq]
    by_cases hname : name = segment
    · rw [hname, hchecker, Option.some_or]
    · rw [if_neg hname, Option.or_none]
  · rw [heq]
    simp [Except.toOption]
  · rw [heq, makeChecker]
    cases hmake : found.make argument with
    | error cause =>
      -- the account is all that changes
      change registry.checker? name = _
      simp [Except.toOption]
    | ok checker =>
      rw [checker?_register]
      change (if name = segment then some checker else registry.checker? name) = _
      by_cases hname : name = segment
      · rw [if_pos hname, if_pos hname, hname, hchecker]
        rfl
      · rw [if_neg hname, if_neg hname, Option.or_none]

theorem makers_materialize :
    (registry.materialize segment maker argument).2.makers = registry.makers := by
  rcases registry.materialize_cases segment maker argument with
    ⟨checker, -, heq⟩ | ⟨-, -, heq⟩ | ⟨found, -, -, heq⟩
  · rw [heq]
  · rw [heq]
  · rw [heq, makeChecker]
    cases found.make argument <;> rfl

end Materialize

/-! ## One event -/

variable (registry : Registry) (event : Event) (events : List Event)

/-- **What an event does to the checkers**: one that is registered takes the place of any other, and
one that is handed out takes a place that is free. -/
theorem checker?_step (name : String) :
    (registry.step event).checker? name =
      (lastOf event.checker?.toList name).or
        ((registry.checker? name).or ((registry.answer? event).toList.lookup name)) := by
  cases event with
  | register other checker =>
    rw [step, checker?_register, Event.checker?, Option.toList_some, lastOf_cons, answer?]
    by_cases hname : name = other <;> simp [hname, lastOf]
  | registerMaker other maker => simp [step, Event.checker?, lastOf, answer?, checker?,
      registerMaker]
  | materialize segment maker argument =>
    rw [step, checker?_materialize, Event.checker?, answer?]
    cases (registry.materialize segment maker argument).1.toOption with
    | none => simp [lastOf]
    | some checker => simp [lastOf, Table.lookup_cons]

/-- **What an event does to the makers**: one that is registered takes the place of any other. -/
theorem maker?_step (name : String) :
    (registry.step event).maker? name =
      (lastOf event.maker?.toList name).or (registry.maker? name) := by
  cases event with
  | register other checker => simp [step, Event.maker?, lastOf, maker?, register]
  | registerMaker other maker =>
    rw [step, maker?_registerMaker, Event.maker?, Option.toList_some, lastOf_cons]
    by_cases hname : name = other <;> simp [hname, lastOf]
  | materialize segment maker argument =>
    rw [step, maker?, makers_materialize, Event.maker?]
    rfl

/-- **What an event does to the account**: it shows the call that is made. -/
theorem makings_step :
    (registry.step event).makings = (registry.making? event).toList ++ registry.makings := by
  cases event with
  | register name checker => rfl
  | registerMaker name maker => rfl
  | materialize segment maker argument =>
    rw [step, making?]
    rcases registry.materialize_cases segment maker argument with
      ⟨checker, hchecker, heq⟩ | ⟨hchecker, hmaker, heq⟩ | ⟨found, hchecker, hmaker, heq⟩
    · rw [heq, hchecker]
      rfl
    · rw [heq, hchecker, hmaker]
      rfl
    · rw [heq, hchecker, hmaker, makeChecker]
      cases hmake : found.make argument with
      | error cause => simp [record, hmake, Except.isOk, Except.toBool]
      | ok checker => simp [record, register, hmake, Except.isOk, Except.toBool]

/-! ## Any number of events -/

/-- **The checker under a name**: the last one registered, if any was; or else the one that was
there; or else the first one handed out. -/
theorem checker?_replay (name : String) :
    (registry.replay events).checker? name =
      (lastOf (events.filterMap Event.checker?) name).or
        ((registry.checker? name).or ((registry.answers events).lookup name)) := by
  induction events generalizing registry with
  | nil => simp [replay, lastOf, answers]
  | cons event events ih =>
    change ((registry.step event).replay events).checker? name = _
    rw [ih, checker?_step, lastOf_filterMap_cons, answers, List.lookup_append]
    simp only [Option.or_assoc]

/-- **The maker under a name**: the last one registered, if any was; or else the one that was
there. -/
theorem maker?_replay (name : String) :
    (registry.replay events).maker? name =
      (lastOf (events.filterMap Event.maker?) name).or (registry.maker? name) := by
  induction events generalizing registry with
  | nil => rfl
  | cons event events ih =>
    change ((registry.step event).replay events).maker? name = _
    rw [ih, maker?_step, lastOf_filterMap_cons, Option.or_assoc]

variable {registry events}

/-- **No checker disappears.** -/
theorem isSome_checker?_replay (events : List Event) {name : String} (h : (registry.checker? name).isSome) :
    ((registry.replay events).checker? name).isSome := by
  rw [checker?_replay, Option.isSome_or, Option.isSome_or, h]
  simp

/-- **No maker disappears.** -/
theorem isSome_maker?_replay (events : List Event) {name : String} (h : (registry.maker? name).isSome) :
    ((registry.replay events).maker? name).isSome := by
  rw [maker?_replay, Option.isSome_or, h]
  simp

/-- **A checker stays** until another one is registered under its name. -/
theorem checker?_replay_of_not_registered {name : String} {checker : Checker}
    (h : registry.checker? name = some checker)
    (hevents : ∀ other, .register name other ∉ events) :
    (registry.replay events).checker? name = some checker := by
  have hlast : lastOf (events.filterMap Event.checker?) name = none := by
    refine List.lookup_eq_none_iff.2 fun entry hentry => ?_
    obtain ⟨event, hevent, heq⟩ := List.mem_filterMap.1 (List.mem_reverse.1 hentry)
    cases event with
    | register other found =>
      cases heq
      simp only [bne_iff_ne, ne_eq]
      rintro rfl
      exact hevents found hevent
    | registerMaker other maker => cases heq
    | materialize segment maker argument => cases heq
  rw [checker?_replay, hlast, h]
  rfl

/-! ## The calls to makers -/

/-- **A maker is only called for want of a checker**, and one that it makes is there afterwards. -/
theorem making?_eq_some {event : Event} {making : Making} {segment : String}
    (h : registry.making? event = some making) (hsegment : making.segment = some segment) :
    registry.checker? segment = none ∧
      (making.accepted → ((registry.step event).checker? segment).isSome) := by
  cases event with
  | register name checker => cases h
  | registerMaker name maker => cases h
  | materialize other maker argument =>
    rw [making?] at h
    rcases registry.materialize_cases other maker argument with
      ⟨checker, hchecker, -⟩ | ⟨hchecker, hmaker, -⟩ | ⟨found, hchecker, hmaker, heq⟩
    · rw [hchecker] at h
      cases h
    · rw [hchecker, hmaker] at h
      cases h
    · rw [hchecker, hmaker] at h
      cases h
      cases hsegment
      refine ⟨hchecker, fun haccepted => ?_⟩
      rw [step, heq, makeChecker]
      cases hmake : found.make argument with
      | error cause => simp [hmake, Except.isOk, Except.toBool] at haccepted
      | ok checker => simp

theorem makingsOf_step (event : Event) (segment : String) :
    (registry.step event).makingsOf segment =
      (registry.making? event).toList.filter (·.segment = some segment) ++
        registry.makingsOf segment := by
  rw [makingsOf, makings_step, List.filter_append]
  rfl

/-- No maker is called in an event for a segment whose checker is there. -/
theorem makingsOf_step_of_checker? {segment : String} (h : (registry.checker? segment).isSome)
    (event : Event) : (registry.step event).makingsOf segment = registry.makingsOf segment := by
  have hnone : (registry.making? event).toList.filter (·.segment = some segment) = [] := by
    refine List.filter_eq_nil_iff.2 fun making hmaking hsegment => ?_
    obtain ⟨hchecker, -⟩ :=
      making?_eq_some (Option.mem_toList.1 hmaking) (of_decide_eq_true hsegment)
    rw [hchecker] at h
    cases h
  rw [makingsOf_step, hnone, List.nil_append]

/-- **No maker is called for a segment whose checker is there**, from then on. -/
theorem makingsOf_replay_of_checker? {segment : String}
    (h : (registry.checker? segment).isSome) (events : List Event) :
    (registry.replay events).makingsOf segment = registry.makingsOf segment := by
  induction events generalizing registry with
  | nil => rfl
  | cons event events ih =>
    have hstep : ((registry.step event).checker? segment).isSome :=
      isSome_checker?_replay [event] h
    have hrest := ih hstep
    rwa [makingsOf_step_of_checker? h event] at hrest

/-- **A maker is called each time** that the checker of a segment is asked for and is not there. -/
theorem makingsOf_step_of_no_checker {segment maker argument : String} {found : Maker}
    (h : registry.checker? segment = none) (hmaker : registry.maker? maker = some found) :
    (registry.step (.materialize segment maker argument)).makingsOf segment =
      ⟨some segment, found.isBuiltIn, (found.make argument).isOk⟩ ::
        registry.makingsOf segment := by
  rw [makingsOf_step, making?, h, hmaker]
  simp

/-- **Nothing is made twice**: for each segment at most one call to a maker has had success, and if
one has, the checker is there. -/
structure Frugal (registry : Registry) : Prop where
  accepted_le_one : ∀ segment, (registry.makingsOf segment).countP (·.accepted) ≤ 1
  checker_of_accepted : ∀ segment, ∀ making ∈ registry.makingsOf segment, making.accepted →
    (registry.checker? segment).isSome

theorem Frugal.empty : Registry.empty.Frugal :=
  ⟨fun _ => Nat.zero_le _, fun _ _ h => absurd h List.not_mem_nil⟩

theorem Frugal.step (h : registry.Frugal) (event : Event) : (registry.step event).Frugal := by
  refine ⟨fun segment => ?_, fun segment making hmaking haccepted => ?_⟩
  · cases hchecker : registry.checker? segment with
    | some checker =>
      rw [makingsOf_step_of_checker? (by simp [hchecker])]
      exact h.accepted_le_one segment
    | none =>
      -- so far no call for the segment has had success, and an event adds one call at most
      have hbefore : (registry.makingsOf segment).countP (·.accepted) = 0 := by
        refine List.countP_eq_zero.2 fun making hmaking haccepted => ?_
        have hsome := h.checker_of_accepted segment making hmaking haccepted
        rw [hchecker] at hsome
        cases hsome
      have hnew : ((registry.making? event).toList.filter
          (·.segment = some segment)).countP (·.accepted) ≤ 1 := by
        have hlength : (registry.making? event).toList.length ≤ 1 := by
          cases registry.making? event <;> simp
        have hcount := List.countP_le_length (p := fun making : Making => making.accepted)
          (l := (registry.making? event).toList.filter (·.segment = some segment))
        have hfilter := List.length_filter_le (fun making : Making => making.segment = some segment)
          (registry.making? event).toList
        omega
      rw [makingsOf_step, List.countP_append, hbefore]
      exact hnew
  · rw [makingsOf_step, List.mem_append] at hmaking
    rcases hmaking with hnew | hold
    · obtain ⟨hmem, hsegment⟩ := List.mem_filter.1 hnew
      obtain ⟨-, hmade⟩ :=
        making?_eq_some (Option.mem_toList.1 hmem) (of_decide_eq_true hsegment)
      exact hmade haccepted
    · exact isSome_checker?_replay [event] (h.checker_of_accepted segment making hold haccepted)

theorem Frugal.replay (h : registry.Frugal) (events : List Event) :
    (registry.replay events).Frugal :=
  List.foldlRecOn events _ h fun _ h event _ => h.step event

end Registry

end FieldChecks
