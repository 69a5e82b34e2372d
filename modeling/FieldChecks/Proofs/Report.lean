import FieldChecks.Proofs.Json.Record
import FieldChecks.Proofs.Text.Concatenation
import FieldChecks.Report

/-!
# Reports — nothing is lost on the way to another program

A report is written as an object with a member for each thing that it
says; the check has one only if a check ran. What is written is read as
the same report (`fromJson_toJson`), whatever the texts in it. The path of
a report is the scope put together with dots; as long as no name has a dot
in it, or is empty, the scope can be told from the path (`scope_report`).
-/

namespace FieldChecks

open Json

namespace Report

/-! ## Writing -/

/-- The members of a report, with what is written for their values. -/
def entries (report : Report) : List (String × List Char) :=
  ("field", stringChars report.field) ::
    ((report.check.map fun check => ("check", stringChars check)).toList ++
      [("message", stringChars report.message), ("code", stringChars report.code.text)])

theorem toList_toJson (report : Report) : report.toJson.toList = objectChars report.entries := by
  have hkeys : ∀ key ∈ ["field", "check", "message", "code"],
      key.toList.flatMap StringLiteral.escape = key.toList := by decide
  simp only [List.forall_mem_cons] at hkeys
  obtain ⟨hfield, hcheck, hmessage, hcode, -⟩ := hkeys
  unfold toJson
  cases h : report.check <;>
  · simp only [entries, h, objectChars, Bracket.chars, Member.compact, Member.chars,
      FailureCode.toJson, writeString, String.toList_append, String.toList_ofList, Option.map_some,
      Option.map_none, Option.toList_some, Option.toList_none, List.map_cons, List.map_nil,
      List.cons_append, List.nil_append, hfield, hcheck, hmessage, hcode]
    simp [Bracket.opening, Bracket.closing, List.intercalate]

/-- **A report is written as the object of its members.** -/
theorem isObject_toJson (report : Report) : IsObject report.toJson.toList report.entries := by
  rw [toList_toJson]
  exact isObject_objectChars _

/-! ## Reading -/

theorem takes_code (code : FailureCode) :
    Reader.Takes FailureCode.reader (stringChars code.text) code := by
  intro blanks rest hblanks hrest
  have hword : code.text ∈ FailureCode.all.map FailureCode.text :=
    List.mem_map_of_mem (by cases code <;> decide)
  have hcode : FailureCode.ofText? code.text = some code := by cases code <;> decide
  rw [FailureCode.reader, bind_eq
    (Reader.takes_word (isString_stringChars code.text) hword _ _ hblanks hrest), hcode]
  rfl

/-- The members of a report fill a draft with all that it says. -/
theorem fills_entries (report : Report) :
    shape.Fills [] {} report.entries
      ⟨some report.field, report.check.map some, some report.message, some report.code⟩ := by
  have htakes := fun text => Reader.takes_string (isString_stringChars text)
  have hlast : ∀ seen, "message" ∉ seen → "code" ∉ seen → ∀ draft : Draft,
      shape.Fills seen draft
        [("message", stringChars report.message), ("code", stringChars report.code.text)]
        { draft with message := some report.message, code := some report.code } := by
    intro seen hmessage hcode draft
    have hread_message := (htakes report.message).map fun text =>
      { draft with message := some text }
    have hread_code := (takes_code report.code).map fun code =>
      { draft with message := some report.message, code := some code }
    refine .known rfl hmessage hread_message ?_
    exact .known rfl (by simp [hcode]) hread_code .nil
  have hread_field := (htakes report.field).map fun text => ({ field := some text } : Draft)
  refine .known rfl (by simp) hread_field ?_
  cases report.check with
  | none => exact hlast _ (by decide) (by decide) _
  | some check =>
    have hcheck := (htakes check).optional (by decide) (by decide)
    have hread_check := hcheck.map fun text =>
      ({ field := some report.field, check := some text } : Draft)
    exact .known rfl (by decide) hread_check (hlast _ (by decide) (by decide) _)

/-- **A report is read from what is written for it.** -/
theorem fromJson_toJson (report : Report) : fromJson report.toJson = .ok report := by
  have hcomplete : Draft.complete ⟨some report.field, report.check.map some,
      some report.message, some report.code⟩ = .ok report := by
    cases report with
    | mk field check message code => cases check <;> rfl
  have hobject : Holds (IsObject · report.entries) report.toJson :=
    .of_toList report.isObject_toJson
  exact decode_eq hobject fun _ h => RecordShape.takes_object h report.fills_entries hcomplete

/-! ## Scopes -/

/-- The names that the path of a report is made of. -/
def scope (report : Report) : List String :=
  if report.field = "" then [] else Text.split "." report.field

/-- A name that can be told from others in a path. -/
structure IsPlain (name : String) : Prop where
  ne_empty : name ≠ ""
  no_dot : '.' ∉ name.toList

theorem IsPlain.not_contains {name : String} (h : IsPlain name) : ¬ Text.Contains "." name :=
  fun hdot => h.no_dot (hdot.subset List.mem_cons_self)

theorem not_overlaps_dot : ¬ Text.Overlaps "." := by
  rintro ⟨part, hne, hpart, hprefix, -⟩
  obtain ⟨rest, hrest⟩ := hprefix
  rcases List.append_eq_singleton_iff.1 hrest with ⟨rfl, -⟩ | ⟨rfl, -⟩
  · exact hne rfl
  · exact hpart rfl

/-- The path of plain names is empty only if there are none. -/
theorem path_eq_empty_iff {error : ValidationError} (h : ∀ name ∈ error.scope, IsPlain name) :
    error.path = "" ↔ error.scope = [] := by
  rw [ValidationError.path, ← String.toList_eq_nil_iff, String.toList_intercalate]
  cases hscope : error.scope with
  | nil => simp
  | cons name names =>
    rw [hscope] at h
    have hname : name.toList ≠ [] :=
      mt String.toList_eq_nil_iff.1 (h name List.mem_cons_self).ne_empty
    cases names <;> simp [List.intercalate_cons_cons, hname]

/-- **The scope is what a report says**, if its names are plain. -/
theorem scope_report {error : ValidationError} (h : ∀ name ∈ error.scope, IsPlain name) :
    error.report.scope = error.scope := by
  by_cases hscope : error.scope = []
  · rw [scope, hscope]
    exact if_pos ((path_eq_empty_iff h).2 hscope)
  · rw [scope]
    refine (if_neg (mt (path_eq_empty_iff h).1 hscope)).trans ?_
    exact Text.split_intercalate (by decide) not_overlaps_dot hscope fun name hname =>
      (h name hname).not_contains

/-- A report has a member for the check if and only if a check ran. -/
theorem check_mem_entries_iff (error : ValidationError) :
    "check" ∈ error.report.entries.map Prod.fst ↔
      ∃ check cause, error.failure = .checkFailed check cause := by
  cases h : error.failure <;> simp [entries, ValidationError.report, Failure.check?, h]

theorem message_eq (error : ValidationError) :
    error.message = if error.scope = [] then error.report.message
      else error.report.field ++ ": " ++ error.report.message := by
  by_cases h : error.scope = [] <;> simp [ValidationError.message, ValidationError.report, h]

/-- **Reports lose nothing.** The text of a report is read as the same report, and it is an object
with a member for the check if and only if one ran; field and message of the report make the
message of the error; and the scope, if its names are plain, is told from the field, so that it
differs where the scope does. -/
theorem report_faithful (error : ValidationError) :
    fromJson error.report.toJson = .ok error.report ∧
      IsObject error.report.toJson.toList error.report.entries ∧
      ("check" ∈ error.report.entries.map Prod.fst ↔
        ∃ check cause, error.failure = .checkFailed check cause) ∧
      (error.message = if error.scope = [] then error.report.message
        else error.report.field ++ ": " ++ error.report.message) ∧
      ((∀ name ∈ error.scope, IsPlain name) →
        (error.report.field = "" ↔ error.scope = []) ∧ error.report.scope = error.scope ∧
        ∀ other : ValidationError, (∀ name ∈ other.scope, IsPlain name) →
          other.report.field = error.report.field → other.scope = error.scope) := by
  refine ⟨fromJson_toJson _, isObject_toJson _, check_mem_entries_iff error, message_eq error,
    fun h => ⟨path_eq_empty_iff h, scope_report h, fun other hother hfield => ?_⟩⟩
  rw [← scope_report hother, ← scope_report h, scope, scope, hfield]

/-- The general statement, for two failures two records deep. -/
theorem report_faithful_of_nested :
    (∀ name ∈ ["owner", "émail"], IsPlain name) ∧
      (ValidationError.mk ["owner", "émail"] .privateField).report.field = "owner.émail" ∧
      (ValidationError.mk ["owner", "émail"] (.checkFailed "email" .missing)).report.scope =
        ["owner", "émail"] ∧
      (ValidationError.mk ["owner", "émail"] .privateField).scope = ["owner", "émail"] := by
  have hplain : ∀ name ∈ ["owner", "émail"], IsPlain name := by
    intro name hname
    rcases List.mem_pair.1 hname with rfl | rfl <;> exact ⟨by decide, by decide⟩
  obtain ⟨-, -, -, -, hscope⟩ :=
    report_faithful ⟨["owner", "émail"], .checkFailed "email" .missing⟩
  obtain ⟨-, hsplit, hdistinct⟩ := hscope hplain
  exact ⟨hplain, rfl, hsplit, hdistinct ⟨["owner", "émail"], .privateField⟩ hplain rfl⟩

end Report

end FieldChecks
