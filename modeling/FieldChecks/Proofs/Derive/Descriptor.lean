import FieldChecks.Derive.Descriptor
import FieldChecks.Proofs.Derive.Options
import FieldChecks.Proofs.Derive.TagReading

/-!
# Descriptors — what they describe, and which fault counts

A descriptor is read off a declaration field by field, and the position of
a field is counted along. This file says without any counting what comes
out: a line of descriptors that goes with the fields that are kept, each
at its place among all fields (`descriptorsFrom_eq_ok_iff`), or the
objection to the first field that has one (`descriptorsFrom_eq_error_iff`).
Both are put together for declarations in `Item.descriptor_exact`,
whatever the grammar takes for arguments and paths.
-/

namespace FieldChecks.Derive

variable {grammar : Grammar}

/-! ## What is said of a field -/

namespace ItemField

variable (grammar : Grammar) (field : ItemField)

/-- The options of the field are well-formed. -/
def HasOptions : Prop :=
  WellFormed grammar IsFieldOption field.attributes

/-- Whether an argument says that the field is left out. -/
def isSkipped : Bool :=
  (optionsIn grammar field.attributes).any Argument.skips

/-- The name that an argument gives to the field. -/
def rename? : Option String :=
  (optionsIn grammar field.attributes).findSome? Argument.rename?

/-- There is nothing wrong with the field: its options are well-formed, and unless it is left out
its attributes hold tags. -/
def IsFine : Prop :=
  field.HasOptions grammar ∧
    (field.isSkipped grammar = false → ∃ tags, HoldTags field.attributes tags)

/-- **What is wrong with a field**: its options, or its tags if it has options and is not left
out. -/
inductive Objects : DeriveFault → Prop
  | options {faults : List OptionFault} (hoptions : ¬ field.HasOptions grammar)
      (hread : readOptions grammar fieldOptions {} field.attributes = .error faults) :
      Objects (.fieldOptions faults)
  | tags {fault : TagFault} (hoptions : field.HasOptions grammar)
      (hkept : field.isSkipped grammar = false) (htags : ¬ ∃ tags, HoldTags field.attributes tags)
      (hread : readTags field.attributes = .error fault) : Objects (.tag fault)

/-- **The descriptor is that of the field**, which stands at a position. -/
structure Describes (position : Nat) (descriptor : FieldDescriptor) : Prop where
  member_eq : descriptor.member = match field.name with
    | some ident => .named ident
    | none => .position position
  name_eq : descriptor.name = ((field.rename? grammar).or field.name).getD position.repr
  isPublic_iff : descriptor.isPublic = true ↔ field.visibility = .everyone
  tags : HoldTags field.attributes descriptor.tags

end ItemField

/-- The fields that are not left out, each with its position among all fields. -/
def keptFrom (grammar : Grammar) (index : Nat) (fields : List ItemField) : List (ItemField × Nat) :=
  (fields.zipIdx index).filter fun (field, _) => !field.isSkipped grammar

/-! ## One field -/

variable {field other : ItemField} {fields others : List ItemField} {index : Nat}
variable {fault : DeriveFault} {descriptors : List FieldDescriptor}

namespace ItemField

/-- **What comes of a field**: an objection, nothing if it is left out, or its descriptor. -/
inductive Yields (grammar : Grammar) (field : ItemField) (index : Nat) :
    Except DeriveFault (Option FieldDescriptor) → Prop
  | objection {fault : DeriveFault} (h : field.Objects grammar fault) :
      Yields grammar field index (.error fault)
  | nothing (hoptions : field.HasOptions grammar) (hskip : field.isSkipped grammar = true) :
      Yields grammar field index (.ok none)
  | descriptor {descriptor : FieldDescriptor} (hoptions : field.HasOptions grammar)
      (hkept : field.isSkipped grammar = false) (h : field.Describes grammar index descriptor) :
      Yields grammar field index (.ok (some descriptor))

theorem readOptions_of_hasOptions (h : field.HasOptions grammar) :
    readOptions grammar fieldOptions {} field.attributes =
      .ok ⟨field.rename? grammar, field.isSkipped grammar⟩ :=
  readOptions_fieldOptions_iff.2 ⟨h, rfl⟩

/-- The name of a field is the one that an argument gives, its own, or its position. -/
theorem getD_name_member (field : ItemField) (index : Nat) :
    (field.rename? grammar).getD (field.member index).name =
      ((field.rename? grammar).or field.name).getD index.repr := by
  cases hrename : field.rename? grammar with
  | some name => rfl
  | none => cases hname : field.name <;> simp [member, Member.name, hname]

/-- A field has one descriptor for the tags that its attributes hold. -/
theorem describes_iff {descriptor : FieldDescriptor} : field.Describes grammar index descriptor ↔
    ∃ tags, HoldTags field.attributes tags ∧
      descriptor = ⟨field.member index, (field.rename? grammar).getD (field.member index).name,
        field.visibility == .everyone, tags⟩ := by
  rw [getD_name_member]
  constructor
  · rintro ⟨hmember, hname, hpublic, htags⟩
    refine ⟨descriptor.tags, htags, ?_⟩
    have hvisible : descriptor.isPublic = (field.visibility == .everyone) := by
      rw [Bool.eq_iff_iff, beq_iff_eq, hpublic]
    rw [← hvisible, ← hname]
    exact congrArg (FieldDescriptor.mk · _ _ _) hmember
  · rintro ⟨tags, htags, rfl⟩
    exact ⟨rfl, rfl, beq_iff_eq, htags⟩

/-- Something comes of every field. -/
theorem exists_yields (field : ItemField) (index : Nat) :
    ∃ result, Yields grammar field index result := by
  by_cases hoptions : field.HasOptions grammar
  · cases hskip : field.isSkipped grammar with
    | true => exact ⟨_, .nothing hoptions hskip⟩
    | false =>
      cases hread : readTags field.attributes with
      | error tagFault =>
        have hno : ¬ ∃ tags, HoldTags field.attributes tags := by
          rintro ⟨tags, htags⟩
          rw [readTags_eq_ok_iff.2 htags] at hread
          cases hread
        exact ⟨_, .objection (.tags hoptions hskip hno hread)⟩
      | ok tags =>
        have htags : HoldTags field.attributes tags := readTags_eq_ok_iff.1 hread
        exact ⟨_, .descriptor hoptions hskip (describes_iff.2 ⟨tags, htags, rfl⟩)⟩
  · cases hread : readOptions grammar fieldOptions {} field.attributes with
    | error faults => exact ⟨_, .objection (.options hoptions hread)⟩
    | ok options => exact absurd (readOptions_fieldOptions_iff.1 hread).1 hoptions

theorem descriptor?_of_yields {result : Except DeriveFault (Option FieldDescriptor)}
    (h : Yields grammar field index result) : field.descriptor? grammar index = result := by
  unfold descriptor?
  cases h with
  | objection h =>
    cases h with
    | options hoptions hread => rw [hread]
    | tags hoptions hkept hno hread => simp [readOptions_of_hasOptions hoptions, hkept, hread]
  | nothing hoptions hskip => simp [readOptions_of_hasOptions hoptions, hskip]
  | @descriptor descriptor hoptions hkept h =>
    obtain ⟨tags, htags, rfl⟩ := describes_iff.1 h
    simp [readOptions_of_hasOptions hoptions, hkept, readTags_eq_ok_iff.2 htags]

/-- **One field** is read to what comes of it. -/
theorem descriptor?_eq_iff {result : Except DeriveFault (Option FieldDescriptor)} :
    field.descriptor? grammar index = result ↔ Yields grammar field index result :=
  eq_iff_of_exists (exists_yields field index) descriptor?_of_yields

/-- There is nothing wrong with a field if something comes of it that is no objection. -/
theorem isFine_iff (index : Nat) :
    field.IsFine grammar ↔ ∃ found, field.descriptor? grammar index = .ok found := by
  constructor
  · rintro ⟨hoptions, htags⟩
    cases hskip : field.isSkipped grammar with
    | true => exact ⟨none, descriptor?_of_yields (.nothing hoptions hskip)⟩
    | false =>
      obtain ⟨tags, htags⟩ := htags hskip
      obtain ⟨descriptor, hdescribes⟩ : ∃ descriptor, field.Describes grammar index descriptor :=
        ⟨_, describes_iff.2 ⟨tags, htags, rfl⟩⟩
      exact ⟨some descriptor, descriptor?_of_yields (.descriptor hoptions hskip hdescribes)⟩
  · rintro ⟨found, hfound⟩
    cases descriptor?_eq_iff.1 hfound with
    | nothing hoptions hskip => exact ⟨hoptions, fun hkept => by simp [hskip] at hkept⟩
    | @descriptor descriptor hoptions _ h => exact ⟨hoptions, fun _ => ⟨_, h.tags⟩⟩

end ItemField

/-! ## All fields -/

theorem keptFrom_cons (index : Nat) (field : ItemField) (fields : List ItemField) :
    keptFrom grammar index (field :: fields) =
      if field.isSkipped grammar then keptFrom grammar (index + 1) fields
      else (field, index) :: keptFrom grammar (index + 1) fields := by
  cases hskip : field.isSkipped grammar <;> simp [keptFrom, List.zipIdx_cons, hskip]

theorem descriptorsFrom_cons_eq_error_iff :
    descriptorsFrom grammar index (field :: fields) = .error fault ↔
      field.Objects grammar fault ∨
        field.IsFine grammar ∧ descriptorsFrom grammar (index + 1) fields = .error fault := by
  rw [descriptorsFrom, ItemField.isFine_iff index]
  cases hfirst : field.descriptor? grammar index with
  | error first =>
    have hobjects : first = fault ↔ field.Objects grammar fault := by
      constructor
      · rintro rfl
        cases ItemField.descriptor?_eq_iff.1 hfirst with
        | objection h => exact h
      · intro h
        rw [ItemField.descriptor?_of_yields (.objection h)] at hfirst
        exact (Except.error.inj hfirst).symm
    simpa [bind, Except.bind] using hobjects
  | ok found =>
    have hno : ¬ field.Objects grammar fault := by
      intro h
      rw [ItemField.descriptor?_of_yields (.objection h)] at hfirst
      cases hfirst
    cases hrest : descriptorsFrom grammar (index + 1) fields <;>
      simp [bind, Except.bind, pure, Except.pure, hno]

/-- **The objection that counts** is the one to the first field that is not fine. -/
theorem descriptorsFrom_eq_error_iff : descriptorsFrom grammar index fields = .error fault ↔
    ∃ front field back, fields = front ++ field :: back ∧
      (∀ earlier ∈ front, earlier.IsFine grammar) ∧ field.Objects grammar fault := by
  induction fields generalizing index with
  | nil => simp [descriptorsFrom]
  | cons field fields ih =>
    rw [descriptorsFrom_cons_eq_error_iff, ih]
    constructor
    · rintro (hobjects | ⟨hfine, front, other, back, rfl, hfront, hobjects⟩)
      · exact ⟨[], field, fields, rfl, by simp, hobjects⟩
      · exact ⟨field :: front, other, back, rfl, List.forall_mem_cons.2 ⟨hfine, hfront⟩, hobjects⟩
    · rintro ⟨_ | ⟨first, front⟩, other, back, hsplit, hfront, hobjects⟩
      · obtain ⟨rfl, rfl⟩ := List.cons.inj hsplit
        exact .inl hobjects
      · obtain ⟨rfl, rfl⟩ := List.cons.inj hsplit
        obtain ⟨hfine, hfront⟩ := List.forall_mem_cons.1 hfront
        exact .inr ⟨hfine, front, other, back, rfl, hfront, hobjects⟩

/-- **The descriptors of fields that are fine** go with the fields that are kept, one by one. -/
theorem descriptorsFrom_eq_ok_iff : descriptorsFrom grammar index fields = .ok descriptors ↔
    (∀ field ∈ fields, field.IsFine grammar) ∧
      List.Forall₂ (fun kept => kept.1.Describes grammar kept.2) (keptFrom grammar index fields)
        descriptors := by
  induction fields generalizing index descriptors with
  | nil => simp [descriptorsFrom, keptFrom, eq_comm]
  | cons field fields ih =>
    rw [keptFrom_cons, List.forall_mem_cons, descriptorsFrom]
    simp only [bind_eq_ok_iff, ih, ItemField.descriptor?_eq_iff]
    constructor
    · rintro ⟨found, hfound, rest, ⟨hfine, hrest⟩, hall⟩
      obtain rfl := Except.ok.inj hall
      cases hfound with
      | nothing hoptions hskip =>
        rw [if_pos hskip]
        exact ⟨⟨⟨hoptions, fun hkept => by simp [hskip] at hkept⟩, hfine⟩, hrest⟩
      | descriptor hoptions hkept h =>
        rw [if_neg (by simp [hkept])]
        exact ⟨⟨⟨hoptions, fun _ => ⟨_, h.tags⟩⟩, hfine⟩, .cons h hrest⟩
    · rintro ⟨⟨⟨hoptions, -⟩, hfine⟩, hall⟩
      cases hskip : field.isSkipped grammar with
      | true =>
        rw [if_pos hskip] at hall
        exact ⟨none, .nothing hoptions hskip, descriptors, ⟨hfine, hall⟩, rfl⟩
      | false =>
        rw [if_neg (by simp [hskip])] at hall
        obtain ⟨descriptor, rest, h, hrest, rfl⟩ := List.forall₂_cons_left_iff.1 hall
        exact ⟨some descriptor, .descriptor hoptions hskip h, rest, ⟨hfine, hrest⟩, rfl⟩

/-- Members at different positions are the same only if they are of one name. -/
theorem ItemField.member_eq_iff {i j : Nat} (hposition : i ≠ j) :
    field.member i = other.member j ↔ ∃ name, field.name = some name ∧ other.name = some name := by
  simp only [member]
  cases field.name with
  | none => cases other.name <;> simp [hposition]
  | some name => cases other.name <;> simp [eq_comm]

/-- The fields that are kept stand at different positions. -/
theorem pairwise_keptFrom (grammar : Grammar) (index : Nat) (fields : List ItemField) :
    (keptFrom grammar index fields).Pairwise fun one two => one.2 ≠ two.2 := by
  have hpositions : ((fields.zipIdx index).map Prod.snd).Pairwise (· < ·) := by
    rw [List.zipIdx_map_snd]
    exact List.pairwise_lt_range'
  have hall : (fields.zipIdx index).Pairwise fun one two => one.2 ≠ two.2 :=
    (List.pairwise_map.1 hpositions).imp Nat.ne_of_lt
  exact hall.sublist List.filter_sublist

/-- **Members differ** exactly if the names do that the fields are declared under. -/
theorem members_nodup_iff
    (h : List.Forall₂ (fun kept => kept.1.Describes grammar kept.2) (keptFrom grammar index fields)
      descriptors) :
    (descriptors.map (·.member)).Nodup ↔
      ((keptFrom grammar index fields).filterMap fun kept => kept.1.name).Nodup := by
  have hmembers : descriptors.map (·.member) =
      (keptFrom grammar index fields).map fun kept => kept.1.member kept.2 := by
    generalize keptFrom grammar index fields = kept at h
    induction h with
    | nil => rfl
    | cons hfirst _ ih => exact congrArg₂ List.cons hfirst.member_eq ih
  have hpositions := pairwise_keptFrom grammar index fields
  rw [hmembers, List.Nodup, List.Nodup, List.pairwise_map, List.pairwise_filterMap]
  constructor
  · intro hdiffer
    refine (hpositions.and hdiffer).imp ?_
    rintro one two ⟨hposition, hmember⟩ name hone _ htwo rfl
    exact hmember ((ItemField.member_eq_iff hposition).2 ⟨name, hone, htwo⟩)
  · intro hnames
    refine (hpositions.and hnames).imp ?_
    rintro one two ⟨hposition, hname⟩ hmember
    obtain ⟨name, hone, htwo⟩ := (ItemField.member_eq_iff hposition).1 hmember
    exact hname name hone name htwo rfl

/-- Fields that are the same, or are left out under the same options. -/
def ItemField.SameUnlessSkipped (grammar : Grammar) (field other : ItemField) : Prop :=
  field = other ∨ field.isSkipped grammar = true ∧
    field.attributes.filter (·.path.key == "structured") =
      other.attributes.filter (·.path.key == "structured")

/-- **What else there is at a field that is left out does not matter**: nothing comes of it, or the
objection to its options. -/
theorem ItemField.SameUnlessSkipped.descriptor?_eq (h : field.SameUnlessSkipped grammar other)
    (index : Nat) : field.descriptor? grammar index = other.descriptor? grammar index := by
  rcases h with rfl | ⟨hskip, hsame⟩
  · rfl
  · have hread : readOptions grammar fieldOptions {} other.attributes =
        readOptions grammar fieldOptions {} field.attributes := by
      rw [← readOptions_filter, ← hsame, readOptions_filter]
    unfold ItemField.descriptor?
    rw [hread]
    cases hoptions : readOptions grammar fieldOptions {} field.attributes with
    | error faults => rfl
    | ok options =>
      obtain ⟨-, rfl⟩ := readOptions_fieldOptions_iff.1 hoptions
      have hleft : (FieldOptions.lookup (optionsIn grammar field.attributes)).skip = true :=
        hskip
      simp only [hleft, if_true]

theorem descriptorsFrom_congr
    (h : List.Forall₂ (ItemField.SameUnlessSkipped grammar) fields others) :
    descriptorsFrom grammar index fields = descriptorsFrom grammar index others := by
  induction h generalizing index with
  | nil => rfl
  | cons hfirst _ ih => rw [descriptorsFrom, descriptorsFrom, hfirst.descriptor?_eq, ih]

/-! ## Declarations -/

/-- **The record describes a struct with the given fields**: it keeps the name and the generic
parameters, and its fields are those that are not left out, each at its position among all. -/
structure Item.Describes (grammar : Grammar) (item : Item) (fields : List ItemField)
    (record : RecordDescriptor) : Prop where
  ident_eq : record.ident = item.ident
  generics_eq : record.generics = item.generics
  library_eq :
    record.library = (TypeOptions.lookup grammar (optionsIn grammar item.attributes)).library
  fields : List.Forall₂ (fun kept => kept.1.Describes grammar kept.2) (keptFrom grammar 0 fields)
    record.fields

variable {item : Item}

theorem Item.descriptor_of_struct (hkind : item.kind = .struct fields) :
    item.descriptor grammar = item.structDescriptor grammar fields := by
  rw [descriptor, hkind]

theorem Item.structDescriptor_of_wellFormed
    (h : WellFormed grammar (IsTypeOption grammar) item.attributes) :
    item.structDescriptor grammar fields = (descriptorsFrom grammar 0 fields).map fun descriptors =>
      ⟨item.ident, item.generics,
        (TypeOptions.lookup grammar (optionsIn grammar item.attributes)).library, descriptors⟩ := by
  rw [structDescriptor, readOptions_typeOptions_iff.2 ⟨h, rfl⟩]

theorem Item.structDescriptor_of_not_wellFormed
    (h : ¬ WellFormed grammar (IsTypeOption grammar) item.attributes) (fields : List ItemField) :
    ∃ faults, readOptions grammar (typeOptions grammar) {} item.attributes = .error faults ∧
      item.structDescriptor grammar fields = .error (.typeOptions faults) := by
  cases hread : readOptions grammar (typeOptions grammar) {} item.attributes with
  | ok options => exact absurd (readOptions_typeOptions_iff.1 hread).1 h
  | error faults => exact ⟨faults, rfl, by rw [structDescriptor, hread]⟩

/-- The record of a struct holds the descriptors of its fields. -/
theorem Item.structDescriptor_eq_ok_iff {record : RecordDescriptor} :
    item.structDescriptor grammar fields = .ok record ↔
      WellFormed grammar (IsTypeOption grammar) item.attributes ∧
        (∀ field ∈ fields, field.IsFine grammar) ∧ item.Describes grammar fields record := by
  constructor
  · intro hok
    by_cases h : WellFormed grammar (IsTypeOption grammar) item.attributes
    · rw [structDescriptor_of_wellFormed h] at hok
      cases hread : descriptorsFrom grammar 0 fields with
      | error fault =>
        rw [hread] at hok
        cases hok
      | ok descriptors =>
        rw [hread] at hok
        obtain rfl := Except.ok.inj hok
        obtain ⟨hfine, hfields⟩ := descriptorsFrom_eq_ok_iff.1 hread
        exact ⟨h, hfine, rfl, rfl, rfl, hfields⟩
    · obtain ⟨faults, -, hfault⟩ := structDescriptor_of_not_wellFormed h fields
      rw [hfault] at hok
      cases hok
  · rintro ⟨h, hfine, hident, hgenerics, hlibrary, hfields⟩
    rw [structDescriptor_of_wellFormed h, descriptorsFrom_eq_ok_iff.2 ⟨hfine, hfields⟩,
      ← hident, ← hgenerics, ← hlibrary]
    rfl

/-- The objection to a struct with well-formed options is that to one of its fields. -/
theorem Item.structDescriptor_eq_error_iff
    (h : WellFormed grammar (IsTypeOption grammar) item.attributes) :
    item.structDescriptor grammar fields = .error fault ↔ ∃ front field back,
      fields = front ++ field :: back ∧ (∀ earlier ∈ front, earlier.IsFine grammar) ∧
        field.Objects grammar fault := by
  have hread : descriptorsFrom grammar 0 fields = .error fault ↔ _ := descriptorsFrom_eq_error_iff
  rw [structDescriptor_of_wellFormed h, ← hread]
  cases descriptorsFrom grammar 0 fields <;> simp [Except.map]

/-- **The descriptor of a declaration**, and the fault that counts if there is none. A declaration
that is no struct has none, whatever its attributes; the options of a struct come before all of its
fields, and fields come in their order, with options before tags. If nothing is wrong the descriptor
describes the struct: each field that is not left out, at its position among all of them. Members
differ exactly if no two of these fields are declared under one name, and what else there is at a
field that is left out does not matter. -/
theorem Item.descriptor_exact (grammar : Grammar) (item : Item) :
    (item.kind = .enum → item.descriptor grammar = .error (.notAStruct "enum")) ∧
    (item.kind = .union → item.descriptor grammar = .error (.notAStruct "union")) ∧
    ∀ fields, item.kind = .struct fields →
      (¬ WellFormed grammar (IsTypeOption grammar) item.attributes →
        ∃ faults, readOptions grammar (typeOptions grammar) {} item.attributes = .error faults ∧
          item.descriptor grammar = .error (.typeOptions faults)) ∧
      (WellFormed grammar (IsTypeOption grammar) item.attributes →
        (∀ fault, item.descriptor grammar = .error fault ↔ ∃ front field back,
          fields = front ++ field :: back ∧ (∀ earlier ∈ front, earlier.IsFine grammar) ∧
            field.Objects grammar fault) ∧
        ∀ record, item.descriptor grammar = .ok record ↔
          (∀ field ∈ fields, field.IsFine grammar) ∧ item.Describes grammar fields record) ∧
      (∀ record, item.descriptor grammar = .ok record →
        ((record.fields.map (·.member)).Nodup ↔
          ((keptFrom grammar 0 fields).filterMap fun kept => kept.1.name).Nodup)) ∧
      ∀ others, List.Forall₂ (ItemField.SameUnlessSkipped grammar) fields others →
        item.descriptor grammar = { item with kind := .struct others }.descriptor grammar := by
  refine ⟨fun h => by rw [descriptor, h], fun h => by rw [descriptor, h], fun fields hkind => ?_⟩
  rw [descriptor_of_struct hkind]
  refine ⟨fun h => structDescriptor_of_not_wellFormed h fields, fun h => ⟨?_, ?_⟩, ?_, ?_⟩
  · intro fault
    exact structDescriptor_eq_error_iff h
  · intro record
    rw [structDescriptor_eq_ok_iff]
    exact and_iff_right h
  · intro record hok
    obtain ⟨-, -, hdescribes⟩ := structDescriptor_eq_ok_iff.1 hok
    exact members_nodup_iff hdescribes.fields
  · intro others hothers
    have hother : { item with kind := .struct others }.descriptor grammar =
        { item with kind := .struct others }.structDescriptor grammar others :=
      descriptor_of_struct rfl
    rw [hother, structDescriptor, structDescriptor, descriptorsFrom_congr hothers]

/-- A pair with a field in the middle that is left out, and whose tag is malformed. -/
theorem Item.descriptor_exact_of_pair :
    let tag : NamePath := ⟨false, ⟨"tag", by decide⟩, []⟩
    let structured : NamePath := ⟨false, ⟨"structured", by decide⟩, []⟩
    let tagged : Attribute :=
      ⟨tag, .arguments .parenthesis [.word "validate", .sign "=", .string "required"]⟩
    let skipped : Attribute := ⟨structured, .arguments .parenthesis [.word "skip"]⟩
    let fields : List ItemField := [⟨none, .everyone, [tagged]⟩,
      ⟨none, .hidden, [skipped, ⟨tag, .nothing⟩]⟩, ⟨none, .restricted, []⟩]
    let pair : Item := ⟨"Pair", [], ⟨[], []⟩, .struct fields⟩
    let record : RecordDescriptor := ⟨"Pair", ⟨[], []⟩, [.sign "::", .word "tagcheck"],
      [⟨.position 0, "0", true, [("validate", "required")]⟩, ⟨.position 2, "2", false, []⟩]⟩
    pair.descriptor .common = .ok record ∧ pair.Describes .common fields record ∧
      (record.fields.map (·.member)).Nodup := by
  intro tag structured tagged skipped fields pair record
  have hok : pair.descriptor .common = .ok record := by decide +kernel
  have hkept : ((keptFrom .common 0 fields).filterMap fun kept => kept.1.name).Nodup := by
    decide +kernel
  obtain ⟨-, -, hstruct⟩ := Item.descriptor_exact .common pair
  obtain ⟨-, hexact, hmembers, -⟩ := hstruct fields rfl
  obtain ⟨-, hrecord⟩ := hexact (wellFormed_nil _ _)
  obtain ⟨-, hdescribes⟩ := (hrecord record).1 hok
  exact ⟨hok, hdescribes, (hmembers record hok).2 hkept⟩

/-- Two fields may be declared under one name, and are then reached in one way. -/
theorem Item.not_members_nodup :
    let field : ItemField := ⟨some "x", .everyone, []⟩
    let twins : Item := ⟨"Twins", [], ⟨[], []⟩, .struct [field, field]⟩
    ∃ record, twins.descriptor .common = .ok record ∧
      ¬ (record.fields.map (·.member)).Nodup :=
  ⟨_, rfl, by decide⟩

end FieldChecks.Derive
