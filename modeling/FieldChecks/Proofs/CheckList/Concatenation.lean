import FieldChecks.Proofs.CheckList.Grammar
import FieldChecks.Proofs.Result
import FieldChecks.Proofs.Text.Concatenation

/-!
# Check lists — several lists in one

A validation that is given several lists puts them together, with a check
separator between two of them, and reads the result as one list. The
segments of that list are those of the given ones, one list after the
other (`segments_intercalate`), provided that the separator does not run
into the end of a list (`Joinable`). The one list then says what the
others say (`read_intercalate`): it is read to their checks, or fails
where the first of them does.
-/

namespace FieldChecks

namespace CheckList

variable {separator : String} {registry : Registry}

/-! ## Segments of lists that are put together -/

/-- The segments of a list are found among its characters. -/
theorem segments_eq (separator list : String) :
    segments separator list =
      (Chars.segments separator.toList list.toList).map String.ofList := by
  have htrim : Text.trim ∘ String.ofList = String.ofList ∘ Chars.trim := by
    funext cs
    simp [Text.trim]
  have hempty : (fun s : String => !s.isEmpty) ∘ String.ofList = fun cs => !cs.isEmpty := by
    funext cs
    cases cs <;> simp
  rw [segments, Text.split, List.map_map, htrim, ← List.map_map, List.filter_map, hempty]
  rfl

/-- **The separator can be put behind a list**, with other lists to follow: it closes the list, or
is made of blanks. -/
def Joinable (separator list : String) : Prop :=
  Text.isBlank separator ∨ Text.Closes separator list

/-- **Lists that are put together** have the segments of them all, in their order. -/
theorem segments_intercalate (hs : separator ≠ "") {lists : List String}
    (h : ∀ list ∈ lists.dropLast, Joinable separator list) :
    segments separator (separator.intercalate lists) = lists.flatMap (segments separator) := by
  have hs' : separator.toList ≠ [] := mt String.toList_eq_nil_iff.1 hs
  have hchars : ∀ text ∈ (lists.map String.toList).dropLast,
      (∀ c ∈ separator.toList, isBlank c) ∨ Chars.Closes separator.toList text := by
    intro text htext
    rw [← List.map_dropLast] at htext
    obtain ⟨list, hlist, rfl⟩ := List.mem_map.1 htext
    exact (h list hlist).imp_left List.all_eq_true.1
  rw [segments_eq, String.toList_intercalate, Chars.segments_intercalate hs' hchars,
    List.flatMap_map, List.map_flatMap]
  exact List.flatMap_congr fun list _ => (segments_eq separator list).symm

/-! ## Reading them -/

/-- Segments are bound as if those before them stood in a list of their own. -/
theorem bindAll_append_fst (first second : List String) :
    (bindAll separator (first ++ second) registry).1 =
      match (bindAll separator first registry).1 with
      | .error failure => .error failure
      | .ok checks => (bindAll separator second registry).1.map (checks ++ ·) := by
  induction first with
  | nil => cases h : (bindAll separator second registry).1 <;> simp [bindAll, h, Except.map]
  | cons segment first ih =>
    rw [List.cons_append, bindAll_cons_fst, bindAll_cons_fst, ih]
    cases (bindSegment separator segment registry).1 with
    | error failure => rfl
    | ok check =>
      cases (bindAll separator first registry).1 with
      | error failure => rfl
      | ok checks => cases (bindAll separator second registry).1 <;> rfl

/-- Segments of several lists are bound list by list, up to the first list that cannot be read. -/
theorem bindAll_flatMap_fst (lists : List String) (cut : String → List String) :
    (bindAll separator (lists.flatMap cut) registry).1 =
      (lists.mapM fun list => (bindAll separator (cut list) registry).1).map List.flatten := by
  induction lists with
  | nil => rfl
  | cons list lists ih =>
    rw [List.flatMap_cons, bindAll_append_fst, ih, List.mapM_cons]
    cases (bindAll separator (cut list) registry).1 with
    | error failure => rfl
    | ok checks => cases lists.mapM fun list => (bindAll separator (cut list) registry).1 <;> rfl

/-- **Lists that are put together say what they say one by one**: all their checks in order, or the
failure of the first one that cannot be read. It is asked of the lists, but for the last, that the
separator can be put behind them. -/
theorem read_intercalate (config : Config) (hconfig : config.validate = .ok ())
    (registry : Registry) (lists : List String)
    (h : ∀ list ∈ lists.dropLast, Joinable config.checkSeparator list) :
    (read config (config.checkSeparator.intercalate lists) registry).1 =
      (lists.mapM fun list => (read config list registry).1).map List.flatten := by
  have hs := (Config.validate_eq_ok_iff.1 hconfig).1
  simp only [read]
  rw [segments_intercalate hs h, bindAll_flatMap_fst]

/-- Three lists under a separator that overlaps itself; the last one may end as it likes. -/
theorem read_intercalate_of_bars :
    let config : Config := { checkSeparator := "||" }
    let lists := ["required || one_of:a|b", "", "luhn|"]
    config.validate = .ok () ∧ (∀ list ∈ lists.dropLast, Joinable config.checkSeparator list) ∧
      (read config (config.checkSeparator.intercalate lists) .builtIn).1 =
        (lists.mapM fun list => (read config list .builtIn).1).map List.flatten := by
  intro config lists
  have hjoinable : ∀ list ∈ lists.dropLast, Joinable config.checkSeparator list := by
    intro list hlist
    have hcases : list = "required || one_of:a|b" ∨ list = "" := by simpa [lists] using hlist
    rcases hcases with rfl | rfl
    · exact .inr ((Chars.closes_iff (by decide)).2 (by decide))
    · exact .inr ((Chars.closes_iff (by decide)).2 (by decide))
  exact ⟨by decide, hjoinable, read_intercalate config (by decide) .builtIn lists hjoinable⟩

/-- **Lists that end in a part of the separator can change when they are put together**: each of
these two can be read, and together they cannot. -/
theorem not_read_intercalate_of_bar :
    let config : Config := { checkSeparator := "||" }
    let lists := ["one_of:a|b|", "required"]
    config.validate = .ok () ∧
      (∃ checks, (lists.mapM fun list => (read config list .builtIn).1) = .ok checks) ∧
      (read config (config.checkSeparator.intercalate lists) .builtIn).1 =
        .error (.unknownChecker "|required") := by
  intro config lists
  have hread : (lists.mapM fun list => (read config list .builtIn).1).isOk := by decide +kernel
  have hjoined : ((read config (config.checkSeparator.intercalate lists) .builtIn).1.map
      fun _ => ()) = .error (.unknownChecker "|required") := by decide +kernel
  refine ⟨by decide, ?_, ?_⟩
  · cases hchecks : lists.mapM fun list => (read config list .builtIn).1 with
    | error failure =>
      rw [hchecks] at hread
      cases hread
    | ok checks => exact ⟨checks, rfl⟩
  · exact eq_error_of_map hjoined

end CheckList

end FieldChecks
