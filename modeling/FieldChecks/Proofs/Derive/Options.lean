import FieldChecks.Derive.Options
import Mathlib.Data.List.Induction
import Mathlib.Data.List.Nodup

/-!
# Options — what a reading of attributes accepts

Options are read argument by argument into a record, and faults are
collected on the way. A reading without faults is a run of steps, each of
which reads a name that is new (`Step`, `Run`), and it does not matter how
the arguments are spread over attributes (`foldl_readAttribute_iff`). For
the options of a field and of a type this comes to a plain condition on
the arguments, and the record is found by looking for the names
(`readOptions_fieldOptions_iff`, `readOptions_typeOptions_iff`). All of
this holds whatever the grammar takes for arguments.
-/

namespace FieldChecks.Derive

variable {grammar : Grammar} {attributes : List Attribute}

/-! ## Arguments -/

/-- The name of an argument, unless it is a literal. -/
def Argument.name? : Argument → Option String
  | .literal => none
  | .named path _ => some path.key

/-- The names of arguments, in their order. -/
def argumentNames (args : List Argument) : List String :=
  args.filterMap Argument.name?

theorem argumentNames_append_named (args : List Argument) (path : NamePath) (body : ArgumentBody) :
    argumentNames (args ++ [.named path body]) = argumentNames args ++ [path.key] := by
  rw [argumentNames, List.filterMap_append]
  rfl

/-- An argument of a name that does not occur is another one. -/
theorem ne_of_not_mem_argumentNames {args : List Argument} {name : String} {path : NamePath}
    {body : ArgumentBody} (hnew : name ∉ argumentNames args) (h : .named path body ∈ args) :
    path.key ≠ name := by
  rintro rfl
  exact hnew (List.mem_filterMap.2 ⟨_, h, rfl⟩)

/-- The arguments of all attributes of options, in their order. -/
def optionsIn (grammar : Grammar) (attributes : List Attribute) : List Argument :=
  attributes.flatMap fun entry => (entry.options grammar).toOption.getD []

/-- The grammar can tell the arguments of all attributes of options. -/
def Readable (grammar : Grammar) (attributes : List Attribute) : Prop :=
  ∀ entry ∈ attributes, ∃ args, entry.options grammar = .ok args

theorem optionsIn_cons (grammar : Grammar) (entry : Attribute) (attributes : List Attribute) :
    optionsIn grammar (entry :: attributes) =
      (entry.options grammar).toOption.getD [] ++ optionsIn grammar attributes :=
  List.flatMap_cons

theorem readable_cons {entry : Attribute} : Readable grammar (entry :: attributes) ↔
    (∃ args, entry.options grammar = .ok args) ∧ Readable grammar attributes :=
  List.forall_mem_cons

/-- The text that is written behind a name. -/
def text? : ArgumentBody → Option String
  | .value (.string content) => some content
  | _ => none

/-- The position of the switch that is written behind a name; a switch without a value is on. -/
def switch? : ArgumentBody → Option Bool
  | .nothing => some true
  | .value (.bool b) => some b
  | .value (.string content) =>
    if content = "true" then some true else if content = "false" then some false else none
  | _ => none

/-- The path that is written behind a name; it may stand in a string. -/
def pathIn? (grammar : Grammar) : ArgumentBody → Option (List Token)
  | .value (.path tokens) => some tokens
  | .value (.string content) => grammar.path? content
  | _ => none

/-! ## Runs without faults -/

variable {σ : Type} {specs : List (OptionSpec σ)}

/-- The option of a name sets the record. -/
def Sets (specs : List (OptionSpec σ)) (name : String) (body : ArgumentBody) (record after : σ) :
    Prop :=
  ∃ spec, specs.find? (·.name == name) = some spec ∧ spec.set body record = .ok after

namespace OptionState

variable {state middle after : OptionState σ} {argument : Argument}
variable {args more : List Argument}

/-- **A step of a reading without faults**: an option that is new sets the record. -/
inductive Step (specs : List (OptionSpec σ)) (state : OptionState σ) :
    Argument → OptionState σ → Prop
  | set {path : NamePath} {body : ArgumentBody} {record : σ} (hnew : path.key ∉ state.seen)
      (hset : Sets specs path.key body state.record record) :
      Step specs state (.named path body) { state with record, seen := path.key :: state.seen }

/-- A run of such steps. -/
inductive Run (specs : List (OptionSpec σ)) :
    OptionState σ → List Argument → OptionState σ → Prop
  | done (state : OptionState σ) : Run specs state [] state
  | step {state middle after : OptionState σ} {argument : Argument} {args : List Argument}
      (hstep : Step specs state argument middle) (hrest : Run specs middle args after) :
      Run specs state (argument :: args) after

theorem Run.append_iff :
    Run specs state (args ++ more) after ↔
      ∃ middle, Run specs state args middle ∧ Run specs middle more after := by
  induction args generalizing state with
  | nil =>
    constructor
    · intro h
      exact ⟨state, .done state, h⟩
    · rintro ⟨_, ⟨⟩, h⟩
      exact h
  | cons argument args ih =>
    constructor
    · intro h
      cases h with
      | step hstep hrest =>
        obtain ⟨middle, hrun, hmore⟩ := ih.1 hrest
        exact ⟨middle, .step hstep hrun, hmore⟩
    · rintro ⟨middle, hrun, hmore⟩
      cases hrun with
      | step hstep hrest => exact .step hstep (ih.2 ⟨middle, hrest, hmore⟩)

theorem Run.singleton_iff : Run specs state [argument] after ↔ Step specs state argument after := by
  constructor
  · rintro (_ | ⟨hstep, ⟨⟩⟩)
    exact hstep
  · intro h
    exact .step h (.done _)

/-- A run finds no faults. -/
theorem Run.faults_eq (h : Run specs state args after) : after.faults = state.faults := by
  induction h with
  | done state => rfl
  | step hstep _ ih =>
    cases hstep with
    | set => exact ih

/-! ## Readings are runs -/

/-- **One argument** is read without a fault by a step, and only by a step. -/
theorem readArgument_iff :
    state.readArgument specs argument = after ∧ after.faults = [] ↔
      Step specs state argument after ∧ after.faults = [] := by
  refine and_congr_left fun hclean => ⟨fun h => ?_, fun h => ?_⟩
  · subst h
    cases argument with
    | literal => simp [readArgument, blame] at hclean
    | named path body =>
      revert hclean
      simp only [readArgument]
      split
      · simp [blame]
      · rename_i spec hspec
        have hname : spec.name = path.key := by simpa using List.find?_some hspec
        split
        · simp [blame]
        · rename_i hnew
          cases hset : spec.set body state.record with
          | error fault => simp [blame]
          | ok record =>
            intro _
            simp only [hname]
            exact .set (by simpa [hname] using hnew) ⟨spec, hspec, hset⟩
  · cases h with
    | @set path body record hnew hset =>
      obtain ⟨spec, hspec, hset⟩ := hset
      have hname : spec.name = path.key := by simpa using List.find?_some hspec
      simp [readArgument, hspec, hname, hnew, hset]

/-- **Some arguments** are read without a fault by a run, and only by a run. -/
theorem foldl_readArgument_iff :
    args.foldl (readArgument specs) state = after ∧ after.faults = [] ↔
      Run specs state args after ∧ after.faults = [] := by
  induction args generalizing state with
  | nil =>
    refine and_congr_left fun _ => ⟨fun h => ?_, fun h => ?_⟩
    · cases h
      exact .done state
    · cases h
      rfl
  | cons argument args ih =>
    rw [List.foldl_cons, ih]
    refine and_congr_left fun hclean => ⟨fun h => ?_, fun h => ?_⟩
    · -- what was wrong with the first argument would be wrong in the end
      have hfirst : (state.readArgument specs argument).faults = [] := by
        rw [← h.faults_eq, hclean]
      exact .step (readArgument_iff.1 ⟨rfl, hfirst⟩).1 h
    · cases h with
      | @step _ middle _ _ _ hstep hrest =>
        have hmiddle : middle.faults = [] := by rw [← hrest.faults_eq, hclean]
        have hread : state.readArgument specs argument = middle :=
          (readArgument_iff.2 ⟨hstep, hmiddle⟩).1
        rw [hread]
        exact hrest

theorem readAttribute_iff {entry : Attribute} :
    state.readAttribute grammar specs entry = after ∧ after.faults = [] ↔
      (∃ args, entry.options grammar = .ok args ∧ Run specs state args after) ∧
        after.faults = [] := by
  cases hargs : entry.options grammar with
  | error fault =>
    -- the fault stays, so there is no run either
    constructor
    · rintro ⟨rfl, hclean⟩
      simp [readAttribute, hargs, blame] at hclean
    · rintro ⟨⟨args, hok, -⟩, -⟩
      cases hok
  | ok args =>
    have hread : args.foldl (readArgument specs) state = after ∧ after.faults = [] ↔ _ :=
      foldl_readArgument_iff
    simpa [readAttribute, hargs] using hread

/-- **Attributes** are read without a fault by a run over their arguments, if the grammar can tell
these. -/
theorem foldl_readAttribute_iff :
    attributes.foldl (readAttribute grammar specs) state = after ∧ after.faults = [] ↔
      (Readable grammar attributes ∧ Run specs state (optionsIn grammar attributes) after) ∧
        after.faults = [] := by
  induction attributes generalizing state with
  | nil =>
    refine and_congr_left fun _ => ⟨fun h => ?_, fun h => ?_⟩
    · cases h
      exact ⟨List.forall_mem_nil _, .done state⟩
    · cases h.2
      rfl
  | cons entry attributes ih =>
    rw [List.foldl_cons, ih, readable_cons, optionsIn_cons, Run.append_iff]
    refine and_congr_left fun hclean => ⟨?_, ?_⟩
    · rintro ⟨hreadable, hrun⟩
      have hfirst : (state.readAttribute grammar specs entry).faults = [] := by
        rw [← hrun.faults_eq, hclean]
      obtain ⟨⟨args, hargs, hentry⟩, -⟩ := readAttribute_iff.1 ⟨rfl, hfirst⟩
      exact ⟨⟨⟨args, hargs⟩, hreadable⟩, _, by rwa [hargs], hrun⟩
    · rintro ⟨⟨⟨args, hargs⟩, hreadable⟩, middle, hentry, hrun⟩
      rw [hargs] at hentry
      have hmiddle : middle.faults = [] := by rw [← hrun.faults_eq, hclean]
      obtain ⟨rfl, -⟩ := readAttribute_iff.2 ⟨⟨args, hargs, hentry⟩, hmiddle⟩
      exact ⟨hreadable, hrun⟩

end OptionState

open OptionState in
/-- **Options are accepted** if the grammar can tell the arguments, and a run over them sets the
record. -/
theorem readOptions_eq_ok_iff {start record : σ} :
    readOptions grammar specs start attributes = .ok record ↔ Readable grammar attributes ∧
      ∃ seen, Run specs ⟨start, [], []⟩ (optionsIn grammar attributes) ⟨record, seen, []⟩ := by
  have hok : readOptions grammar specs start attributes = .ok record ↔
      ∃ seen, attributes.foldl (readAttribute grammar specs) ⟨start, [], []⟩ =
        ⟨record, seen, []⟩ := by
    unfold readOptions
    obtain ⟨final, seen, faults⟩ := attributes.foldl (readAttribute grammar specs) ⟨start, [], []⟩
    cases faults <;> simp
  rw [hok, ← exists_and_left]
  refine exists_congr fun seen => ?_
  simpa using @foldl_readAttribute_iff grammar attributes σ specs ⟨start, [], []⟩ ⟨record, seen, []⟩

/-- **Attributes of other paths are not looked at.** -/
theorem readOptions_filter (grammar : Grammar) (specs : List (OptionSpec σ)) (start : σ)
    (attributes : List Attribute) :
    readOptions grammar specs start (attributes.filter (·.path.key == "structured")) =
      readOptions grammar specs start attributes := by
  have hfold : ∀ state : OptionState σ,
      (attributes.filter (·.path.key == "structured")).foldl
          (OptionState.readAttribute grammar specs) state =
        attributes.foldl (OptionState.readAttribute grammar specs) state := by
    induction attributes with
    | nil => exact fun _ => rfl
    | cons entry attributes ih =>
      intro state
      by_cases hpath : entry.path.key = "structured"
      · simp [hpath, ih]
      · simp [hpath, ih, OptionState.readAttribute, Attribute.options]
  unfold readOptions
  rw [hfold]

/-! ## Options that are set by readers -/

/-- The reader accepts what has a meaning, and gives the meaning. -/
def OptionReader.Means {α : Type} (read : OptionReader α) (meaning? : ArgumentBody → Option α) :
    Prop :=
  ∀ name body a, read name body = .ok a ↔ meaning? body = some a

theorem readText_means : OptionReader.Means readText text? := by
  rintro name (_ | ⟨_ | _⟩ | _) a <;> simp [readText, text?]

theorem readSwitch_means : OptionReader.Means readSwitch switch? := by
  rintro name (_ | ⟨content | _⟩ | _) a
  case value.string =>
    by_cases hon : content = "true"
    · simp [readSwitch, switch?, hon]
    · by_cases hoff : content = "false"
      · simp [readSwitch, switch?, hoff]
      · simp [readSwitch, switch?, hon, hoff]
  all_goals simp [readSwitch, switch?]

theorem readPath_means (grammar : Grammar) :
    OptionReader.Means (readPath grammar) (pathIn? grammar) := by
  rintro name (_ | ⟨content | _⟩ | _) a
  case value.string => cases hpath : grammar.path? content <;> simp [readPath, pathIn?, hpath]
  all_goals simp [readPath, pathIn?]

section Reader

variable {α : Type} {read : OptionReader α} {meaning? : ArgumentBody → Option α}
variable {name : String} {set : α → σ → σ}

theorem optionSpec_name : (optionSpec name read set).name = name :=
  rfl

theorem optionSpec_set_iff (h : read.Means meaning?) {body : ArgumentBody} {record after : σ} :
    (optionSpec name read set).set body record = .ok after ↔
      ∃ a, meaning? body = some a ∧ after = set a record := by
  simp only [← h name body, optionSpec]
  cases read name body <;> simp [Except.map, @eq_comm _ after]

end Reader

/-! ## The options of fields and of types -/

/-- **Well-formed options**: the grammar can tell the arguments of the attributes, and these are
known, each given once. -/
structure WellFormed (grammar : Grammar) (known : String → ArgumentBody → Prop)
    (attributes : List Attribute) : Prop where
  readable : Readable grammar attributes
  known : ∀ argument ∈ optionsIn grammar attributes,
    ∃ path body, argument = .named path body ∧ known path.key body
  nodup : (argumentNames (optionsIn grammar attributes)).Nodup

theorem wellFormed_nil (grammar : Grammar) (known : String → ArgumentBody → Prop) :
    WellFormed grammar known [] :=
  ⟨List.forall_mem_nil _, List.forall_mem_nil _, List.nodup_nil⟩

section Lookup

variable {known : String → ArgumentBody → Prop} {lookup : List Argument → σ}

open OptionState in
/-- **A run is a lookup**, if each further argument of a new name sets the record to what is found
with it. -/
theorem run_iff_lookup
    (hlookup : ∀ args path body after, NamePath.key path ∉ argumentNames args →
      (Sets specs path.key body (lookup args) after ↔
        known path.key body ∧ after = lookup (args ++ [.named path body])))
    (args : List Argument) (after : OptionState σ) :
    Run specs ⟨lookup [], [], []⟩ args after ↔
      (∀ argument ∈ args, ∃ path body, argument = .named path body ∧ known path.key body) ∧
      (argumentNames args).Nodup ∧
      after = ⟨lookup args, (argumentNames args).reverse, []⟩ := by
  induction args using List.reverseRecOn generalizing after with
  | nil =>
    constructor
    · rintro ⟨⟩
      exact ⟨List.forall_mem_nil _, List.nodup_nil, rfl⟩
    · rintro ⟨-, -, rfl⟩
      exact .done _
  | append_singleton args argument ih =>
    have hnames : ∀ path body, (argumentNames (args ++ [.named path body])).Nodup ↔
        path.key ∉ argumentNames args ∧ (argumentNames args).Nodup := by
      intro path body
      rw [argumentNames_append_named, ← List.concat_eq_append, List.nodup_concat]
    simp only [Run.append_iff, Run.singleton_iff, ih, List.forall_mem_append,
      List.forall_mem_singleton]
    constructor
    · rintro ⟨_, ⟨hknown, hnodup, rfl⟩, hstep⟩
      cases hstep with
      | @set path body record hnew hset =>
        have hfresh : path.key ∉ argumentNames args := fun h => hnew (List.mem_reverse.2 h)
        obtain ⟨hargument, rfl⟩ := (hlookup args path body _ hfresh).1 hset
        refine ⟨⟨hknown, path, body, rfl, hargument⟩, (hnames path body).2 ⟨hfresh, hnodup⟩, ?_⟩
        rw [argumentNames_append_named, List.reverse_append]
        rfl
    · rintro ⟨⟨hknown, path, body, rfl, hargument⟩, hnodup, rfl⟩
      obtain ⟨hfresh, hnodup⟩ := (hnames path body).1 hnodup
      have hset : Sets specs path.key body (lookup args) (lookup (args ++ [.named path body])) :=
        (hlookup args path body _ hfresh).2 ⟨hargument, rfl⟩
      rw [argumentNames_append_named, List.reverse_append]
      exact ⟨_, ⟨hknown, hnodup, rfl⟩, .set (fun h => hfresh (List.mem_reverse.1 h)) hset⟩

open OptionState in
/-- **Reading options is looking them up**: they are accepted if they are well-formed, and are what
is found. -/
theorem readOptions_iff_lookup
    (hlookup : ∀ args path body after, NamePath.key path ∉ argumentNames args →
      (Sets specs path.key body (lookup args) after ↔
        known path.key body ∧ after = lookup (args ++ [.named path body]))) {record : σ} :
    readOptions grammar specs (lookup []) attributes = .ok record ↔
      WellFormed grammar known attributes ∧ record = lookup (optionsIn grammar attributes) := by
  have hrun := run_iff_lookup hlookup (optionsIn grammar attributes)
  rw [readOptions_eq_ok_iff]
  constructor
  · rintro ⟨hreadable, seen, h⟩
    obtain ⟨hknown, hnodup, hafter⟩ := (hrun _).1 h
    cases hafter
    exact ⟨⟨hreadable, hknown, hnodup⟩, rfl⟩
  · rintro ⟨⟨hreadable, hknown, hnodup⟩, rfl⟩
    exact ⟨hreadable, _, (hrun _).2 ⟨hknown, hnodup, rfl⟩⟩

end Lookup

/-- An option that a field may have. -/
def IsFieldOption (name : String) (body : ArgumentBody) : Prop :=
  name = "rename" ∧ (text? body).isSome ∨ name = "skip" ∧ (switch? body).isSome

/-- An option that a type may have. -/
def IsTypeOption (grammar : Grammar) (name : String) (body : ArgumentBody) : Prop :=
  name = "crate" ∧ (pathIn? grammar body).isSome

namespace Argument

/-- The name that an argument gives to a field. -/
def rename? : Argument → Option String
  | .literal => none
  | .named path body => if path.key = "rename" then text? body else none

/-- Whether an argument says that a field is left out. -/
def skips : Argument → Bool
  | .literal => false
  | .named path body => path.key == "skip" && switch? body == some true

/-- The path of the library that an argument gives. -/
def library? (grammar : Grammar) : Argument → Option (List Token)
  | .literal => none
  | .named path body => if path.key = "crate" then pathIn? grammar body else none

end Argument

/-- The options that are found among the arguments for a field. -/
def FieldOptions.lookup (args : List Argument) : FieldOptions :=
  ⟨args.findSome? Argument.rename?, args.any Argument.skips⟩

/-- The options that are found among the arguments for a type. -/
def TypeOptions.lookup (grammar : Grammar) (args : List Argument) : TypeOptions :=
  ((args.findSome? (Argument.library? grammar)).map TypeOptions.mk).getD {}

section Fresh

variable {args : List Argument} {name : String} {path : NamePath} {body : ArgumentBody}

theorem sets_fieldOptions_iff {record after : FieldOptions} :
    Sets fieldOptions name body record after ↔
      (name = "rename" ∧ ∃ text, text? body = some text ∧
        after = { record with rename := some text }) ∨
      (name = "skip" ∧ ∃ on, switch? body = some on ∧ after = { record with skip := on }) := by
  unfold Sets fieldOptions
  by_cases hrename : name = "rename"
  · simp [hrename, optionSpec_set_iff readText_means, optionSpec_name]
  · by_cases hskip : name = "skip"
    · simp [hskip, optionSpec_set_iff readSwitch_means, optionSpec_name]
    · simp [hrename, hskip, Ne.symm hrename, Ne.symm hskip, optionSpec_name]

/-- A field's further argument of a new name sets the options to what is found with it. -/
theorem sets_fieldOptions_lookup_iff {after : FieldOptions}
    (hnew : path.key ∉ argumentNames args) :
    Sets fieldOptions path.key body (.lookup args) after ↔
      IsFieldOption path.key body ∧ after = .lookup (args ++ [.named path body]) := by
  rw [sets_fieldOptions_iff, IsFieldOption]
  by_cases hrename : path.key = "rename"
  · -- there was no name before, and the switch stays
    have hbefore : args.findSome? Argument.rename? = none := by
      refine List.findSome?_eq_none_iff.2 fun other hother => ?_
      cases other with
      | literal => rfl
      | named first _ =>
        exact if_neg fun h => ne_of_not_mem_argumentNames hnew hother (h.trans hrename.symm)
    cases htext : text? body with
    | none => simp [hrename]
    | some text =>
      simp [hrename, htext, hbefore, FieldOptions.lookup, Argument.rename?, Argument.skips]
  · by_cases hskip : path.key = "skip"
    · -- the switch was off before, and the name stays
      have hbefore : args.any Argument.skips = false := by
        refine List.any_eq_false.2 fun other hother hskips => ?_
        cases other with
        | literal => cases hskips
        | named first _ =>
          simp only [Argument.skips, Bool.and_eq_true, beq_iff_eq] at hskips
          exact ne_of_not_mem_argumentNames hnew hother (hskips.1.trans hskip.symm)
      cases hswitch : switch? body with
      | none => simp [hskip]
      | some on =>
        simp [hskip, hswitch, hbefore, FieldOptions.lookup, Argument.rename?, Argument.skips]
    · simp [hrename, hskip]

theorem sets_typeOptions_iff {record after : TypeOptions} :
    Sets (typeOptions grammar) name body record after ↔
      name = "crate" ∧ ∃ path, pathIn? grammar body = some path ∧ after = ⟨path⟩ := by
  unfold Sets typeOptions
  by_cases hcrate : name = "crate"
  · simp [hcrate, optionSpec_set_iff (readPath_means grammar), optionSpec_name]
  · simp [hcrate, Ne.symm hcrate, optionSpec_name]

/-- A type's further argument of a new name sets the options to what is found with it. -/
theorem sets_typeOptions_lookup_iff {after : TypeOptions}
    (hnew : path.key ∉ argumentNames args) :
    Sets (typeOptions grammar) path.key body (.lookup grammar args) after ↔
      IsTypeOption grammar path.key body ∧
        after = .lookup grammar (args ++ [.named path body]) := by
  rw [sets_typeOptions_iff, IsTypeOption]
  by_cases hcrate : path.key = "crate"
  · have hbefore : args.findSome? (Argument.library? grammar) = none := by
      refine List.findSome?_eq_none_iff.2 fun other hother => ?_
      cases other with
      | literal => rfl
      | named first _ =>
        exact if_neg fun h => ne_of_not_mem_argumentNames hnew hother (h.trans hcrate.symm)
    cases hlibrary : pathIn? grammar body with
    | none => simp [hcrate]
    | some library =>
      simp [hcrate, hlibrary, hbefore, TypeOptions.lookup, Argument.library?]
  · simp [hcrate]

end Fresh

/-- **The options of a field** are accepted if they are well-formed, and are what is found. -/
theorem readOptions_fieldOptions_iff {options : FieldOptions} :
    readOptions grammar fieldOptions {} attributes = .ok options ↔
      WellFormed grammar IsFieldOption attributes ∧
        options = .lookup (optionsIn grammar attributes) :=
  readOptions_iff_lookup fun _ _ _ _ => sets_fieldOptions_lookup_iff

/-- **The options of a type** are accepted if they are well-formed, and are what is found. -/
theorem readOptions_typeOptions_iff {options : TypeOptions} :
    readOptions grammar (typeOptions grammar) {} attributes = .ok options ↔
      WellFormed grammar (IsTypeOption grammar) attributes ∧
        options = .lookup grammar (optionsIn grammar attributes) :=
  readOptions_iff_lookup fun _ _ _ _ => sets_typeOptions_lookup_iff

end FieldChecks.Derive
