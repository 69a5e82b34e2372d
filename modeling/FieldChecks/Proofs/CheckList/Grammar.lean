import FieldChecks.Checks.Catalog
import FieldChecks.Proofs.CheckList.Keeping
import FieldChecks.Proofs.Text.Blank
import FieldChecks.Proofs.Text.Split

/-!
# Check lists — the grammar, apart from the reader

Which lists can be read, what they read to and which failure stops them,
said without the reader: `Segmentation` cuts a text into segments, and a
segment `Binds` to a check or is `Refused`. All of it speaks of the one
registry that reading starts from. The reader, whose registry changes
from segment to segment, accepts exactly this grammar
(`read_iff_grammar`).
-/

namespace FieldChecks

namespace CheckList

variable {separator segment : String} {registry : Registry}

/-! ## The grammar -/

/-- **The segments of a list**: its pieces between the check separators, trimmed, without the
empty ones. -/
def Segmentation (separator list : String) (segments : List String) : Prop :=
  ∃ pieces trimmed, Text.Pieces separator list pieces ∧ List.Forall₂ Text.Trims pieces trimmed ∧
    segments = trimmed.filter (!·.isEmpty)

/-- A segment's check is reported under what stands before the first argument separator, or else
under all of the segment. -/
def ReportedAs (separator segment name : String) : Prop :=
  (∃ rest, Text.FirstCut separator segment name rest) ∨
    ¬ Text.Contains separator segment ∧ name = segment

/-- A segment calls a maker of a registry: cut at its first argument separator it is the maker's
name and an argument, neither of them empty, and the argument has no separator of its own. -/
def Calls (separator segment : String) (registry : Registry) (name : String) (maker : Maker)
    (argument : String) : Prop :=
  Text.FirstCut separator segment name argument ∧ name ≠ "" ∧ argument ≠ "" ∧
    ¬ Text.Contains separator argument ∧ registry.maker? name = some maker

/-- **What a segment stands for.** -/
inductive Binds (separator : String) (registry : Registry) (segment : String) : BoundCheck → Prop
  /-- The name of a checker stands for the checker, also where it could be read as a call. -/
  | named {checker : Checker} {name : String} :
      registry.checker? segment = some checker → ReportedAs separator segment name →
      Binds separator registry segment ⟨name, checker⟩
  /-- A call stands for what the maker makes. -/
  | made {name argument : String} {maker : Maker} {checker : Checker} :
      registry.checker? segment = none → Calls separator segment registry name maker argument →
      maker.make argument = .ok checker → Binds separator registry segment ⟨name, checker⟩

/-- **Why a segment stands for nothing.** -/
inductive Refused (separator : String) (registry : Registry) (segment : String) : Failure → Prop
  /-- The maker that it calls refuses the argument. -/
  | rejected {name argument : String} {maker : Maker} {cause : CheckError} :
      registry.checker? segment = none → Calls separator segment registry name maker argument →
      maker.make argument = .error cause →
      Refused separator registry segment (.makerRejected segment cause)
  /-- It names no checker and calls no maker. -/
  | unknown :
      registry.checker? segment = none →
      (∀ name maker argument, ¬ Calls separator segment registry name maker argument) →
      Refused separator registry segment (.unknownChecker segment)

/-! ## The reader meets it -/

theorem segmentation_iff {list : String} {others : List String} (hs : separator ≠ "") :
    Segmentation separator list others ↔ others = segments separator list := by
  have htrim : ∀ {pieces trimmed : List String},
      List.Forall₂ Text.Trims pieces trimmed ↔ pieces.map Text.trim = trimmed := by
    intro pieces trimmed
    rw [← List.forall₂_eq_eq_eq, List.forall₂_map_left_iff]
    simp only [Text.trim_eq_iff]
  simp only [Segmentation, Text.pieces_iff hs, htrim, segments]
  constructor
  · rintro ⟨pieces, trimmed, rfl, rfl, rfl⟩
    rfl
  · rintro rfl
    exact ⟨_, _, rfl, rfl, rfl⟩

theorem displayName_eq_iff {name : String} :
    displayName separator segment = name ↔ ReportedAs separator segment name := by
  unfold displayName ReportedAs
  simp only [← Text.cut?_eq_some_iff, ← Text.cut?_eq_none_iff]
  cases h : Text.cut? separator segment with
  | none => simp [eq_comm]
  | some parts => obtain ⟨before, rest⟩ := parts; simp

theorem call?_eq_some_iff_calls {name argument : String} {maker : Maker} :
    call? separator segment registry = some (name, maker, argument) ↔
      Calls separator segment registry name maker argument := by
  rw [call?_eq_some_iff, invocation?_eq_some_iff, Text.cut?_eq_some_iff, Text.occurs_iff, Calls]
  simp only [and_assoc]

/-- **A segment is bound to what it stands for.** -/
theorem bindSegment_eq_ok_iff {check : BoundCheck} :
    (bindSegment separator segment registry).1 = .ok check ↔
      Binds separator registry segment check := by
  constructor
  · intro h
    cases hchecker : registry.checker? segment with
    | some checker =>
      rw [bindSegment_of_checker? hchecker] at h
      cases h
      exact .named hchecker (displayName_eq_iff.1 rfl)
    | none =>
      cases hcall : call? separator segment registry with
      | none =>
        rw [bindSegment_of_no_call hchecker hcall] at h
        cases h
      | some call =>
        obtain ⟨name, maker, argument⟩ := call
        rw [bindSegment_of_call hchecker hcall] at h
        cases hmake : maker.make argument with
        | error cause =>
          rw [hmake] at h
          cases h
        | ok checker =>
          rw [hmake] at h
          cases h
          exact .made hchecker (call?_eq_some_iff_calls.1 hcall) hmake
  · intro h
    cases h with
    | named hchecker hname =>
      rw [bindSegment_of_checker? hchecker, displayName_eq_iff.2 hname]
    | made hchecker hcall hmake =>
      rw [bindSegment_of_call hchecker (call?_eq_some_iff_calls.2 hcall), hmake]

/-- **A segment that is not bound is refused**, for the reason that the failure gives. -/
theorem bindSegment_eq_error_iff {failure : Failure} :
    (bindSegment separator segment registry).1 = .error failure ↔
      Refused separator registry segment failure := by
  constructor
  · intro h
    cases hchecker : registry.checker? segment with
    | some checker =>
      rw [bindSegment_of_checker? hchecker] at h
      cases h
    | none =>
      cases hcall : call? separator segment registry with
      | none =>
        rw [bindSegment_of_no_call hchecker hcall] at h
        cases h
        refine .unknown hchecker fun name maker argument hcalls => ?_
        rw [call?_eq_some_iff_calls.2 hcalls] at hcall
        cases hcall
      | some call =>
        obtain ⟨name, maker, argument⟩ := call
        rw [bindSegment_of_call hchecker hcall] at h
        cases hmake : maker.make argument with
        | error cause =>
          rw [hmake] at h
          cases h
          exact .rejected hchecker (call?_eq_some_iff_calls.1 hcall) hmake
        | ok checker =>
          rw [hmake] at h
          cases h
  · intro h
    cases h with
    | rejected hchecker hcall hmake =>
      rw [bindSegment_of_call hchecker (call?_eq_some_iff_calls.2 hcall), hmake]
    | unknown hchecker hno =>
      have hcall : call? separator segment registry = none := by
        cases hcall : call? separator segment registry with
        | none => rfl
        | some call => exact absurd (call?_eq_some_iff_calls.1 hcall) (hno call.1 call.2.1 call.2.2)
      rw [bindSegment_of_no_call hchecker hcall]

/-- Members of a list are all related to something when a list of things is related to theirs. -/
theorem exists_forall₂_iff {α β : Type} {R : α → β → Prop} {as : List α} :
    (∃ bs, List.Forall₂ R as bs) ↔ ∀ a ∈ as, ∃ b, R a b := by
  induction as with
  | nil => simp
  | cons a as ih =>
    rw [List.forall_mem_cons, ← ih]
    constructor
    · rintro ⟨bs, hbs⟩
      obtain ⟨b, bs, hab, hrest, rfl⟩ := List.forall₂_cons_left_iff.1 hbs
      exact ⟨⟨b, hab⟩, bs, hrest⟩
    · rintro ⟨⟨b, hab⟩, bs, hrest⟩
      exact ⟨b :: bs, .cons hab hrest⟩

/-- **Reading accepts exactly the grammar.** A list has one segmentation, and with it: the list is
read if and only if every segment stands for something; it then reads to what the segments stand
for, one check a segment and in their order; and otherwise it fails with the first segment that
stands for nothing. The registry spoken of is the one that reading starts from. -/
theorem read_iff_grammar (config : Config) (hc : config.checkSeparator ≠ "") (list : String)
    (registry : Registry) :
    ∃ segments, (∀ others, Segmentation config.checkSeparator list others ↔ others = segments) ∧
      ((∃ checks, (read config list registry).1 = .ok checks) ↔
        ∀ segment ∈ segments, ∃ check, Binds config.argumentSeparator registry segment check) ∧
      (∀ checks, (read config list registry).1 = .ok checks ↔
        List.Forall₂ (Binds config.argumentSeparator registry) segments checks) ∧
      ∀ failure, (read config list registry).1 = .error failure ↔
        ∃ front segment back, segments = front ++ segment :: back ∧
          (∀ other ∈ front, ∃ check, Binds config.argumentSeparator registry other check) ∧
          Refused config.argumentSeparator registry segment failure := by
  have hok : ∀ checks, (read config list registry).1 = .ok checks ↔
      List.Forall₂ (Binds config.argumentSeparator registry)
        (segments config.checkSeparator list) checks := by
    intro checks
    rw [read, bindAll_eq_ok_iff]
    simp only [bindSegment_eq_ok_iff]
  refine ⟨segments config.checkSeparator list, fun others => segmentation_iff hc, ?_, hok, ?_⟩
  · simp only [hok]
    exact exists_forall₂_iff
  · intro failure
    rw [read, bindAll_eq_error_iff]
    simp only [bindSegment_eq_ok_iff, bindSegment_eq_error_iff]

/-- The grammar under separators that overlap themselves. -/
theorem read_iff_grammar_of_overlapping :
    let config : Config := { checkSeparator := ",,", argumentSeparator := "::" }
    let list := "luhn,,, min:::3 ,,"
    config.checkSeparator ≠ "" ∧
      ∃ segments, (∀ others, Segmentation config.checkSeparator list others ↔ others = segments) ∧
        ((∃ checks, (read config list .builtIn).1 = .ok checks) ↔
          ∀ segment ∈ segments, ∃ check, Binds config.argumentSeparator .builtIn segment check) ∧
        (∀ checks, (read config list .builtIn).1 = .ok checks ↔
          List.Forall₂ (Binds config.argumentSeparator .builtIn) segments checks) ∧
        ∀ failure, (read config list .builtIn).1 = .error failure ↔
          ∃ front segment back, segments = front ++ segment :: back ∧
            (∀ other ∈ front, ∃ check, Binds config.argumentSeparator .builtIn other check) ∧
            Refused config.argumentSeparator .builtIn segment failure :=
  ⟨by decide, read_iff_grammar _ (by decide) _ _⟩

end CheckList

end FieldChecks
