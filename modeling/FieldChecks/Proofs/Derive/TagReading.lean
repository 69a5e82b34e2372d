import FieldChecks.Derive.Descriptor
import FieldChecks.Proofs.Derive.Tags
import Mathlib.Data.List.Induction
import Mathlib.Data.List.Nodup
import Mathlib.Data.List.Perm.Basic

/-!
# Tags of fields — which fault is told, and what is found by name

The verdict on the findings of a field is the first that is wrong,
whatever tags are repeated in front of it; else the first name that has
come before; else all tags (`Verdict`). Reading goes through the
attributes once and comes to this verdict (`readTags_eq_iff`), since a
repeated name is only kept in mind. The names of accepted tags differ, so
that neither their order nor the attributes that they stand in matter to
what is found by name (`readTags_exact`).
-/

namespace FieldChecks.Derive

variable {attributes others : List Attribute} {tags : List Tag}

/-! ## The verdict -/

/-- **The verdict on findings.** -/
inductive Verdict (found : List (Except TagFault Tag)) : Except TagFault (List Tag) → Prop
  /-- The first that is wrong is told, whatever tags are in front of it. -/
  | malformed {front : List Tag} {fault : TagFault} {back : List (Except TagFault Tag)} :
      found = front.map Except.ok ++ .error fault :: back → Verdict found (.error fault)
  /-- Else the first tag is told whose name has come before. -/
  | duplicate {front back : List Tag} {name text : String} :
      found = (front ++ (name, text) :: back).map Except.ok → (front.map Prod.fst).Nodup →
      name ∈ front.map Prod.fst → Verdict found (.error (.duplicate name))
  /-- Else all tags are accepted. -/
  | accepted {tags : List Tag} :
      found = tags.map Except.ok → (tags.map Prod.fst).Nodup → Verdict found (.ok tags)

/-- The tags among findings, or the first that is wrong. -/
def sift (found : List (Except TagFault Tag)) : Except TagFault (List Tag) :=
  found.mapM id

theorem sift_append (front back : List (Except TagFault Tag)) :
    sift (front ++ back) = sift front >>= fun tags => (sift back).map (tags ++ ·) := by
  rw [sift, List.mapM_append]
  rfl

theorem sift_cons_ok (tag : Tag) (found : List (Except TagFault Tag)) :
    sift (.ok tag :: found) = (sift found).map (tag :: ·) :=
  sift_append [.ok tag] found

theorem sift_eq_ok_iff {found : List (Except TagFault Tag)} :
    sift found = .ok tags ↔ found = tags.map Except.ok := by
  rw [sift, mapM_eq_ok_iff, ← List.forall₂_eq_eq_eq, List.forall₂_map_right_iff]
  rfl

theorem sift_eq_error_iff {found : List (Except TagFault Tag)} {fault : TagFault} :
    sift found = .error fault ↔
      ∃ (front : List Tag) (back : List (Except TagFault Tag)),
        found = front.map Except.ok ++ .error fault :: back := by
  constructor
  · intro h
    induction found with
    | nil => cases h
    | cons finding found ih =>
      cases finding with
      | error first =>
        cases h
        exact ⟨[], found, rfl⟩
      | ok tag =>
        rw [sift_cons_ok] at h
        obtain ⟨front, back, rfl⟩ := ih (eq_error_of_map h)
        exact ⟨tag :: front, back, rfl⟩
  · rintro ⟨front, back, rfl⟩
    rw [sift_append, sift_eq_ok_iff.2 rfl]
    rfl

/-- Names differ, or one of them is the first that has come before. -/
theorem nodup_or_exists_repeated (tags : List Tag) : (tags.map Prod.fst).Nodup ∨
    ∃ front name text back, tags = front ++ (name, text) :: back ∧
      (front.map Prod.fst).Nodup ∧ name ∈ front.map Prod.fst := by
  -- a tag more at the end repeats a name only if none in front of it does
  induction tags using List.reverseRecOn with
  | nil => exact .inl .nil
  | append_singleton tags tag ih =>
    obtain ⟨name, text⟩ := tag
    rcases ih with hnodup | ⟨front, first, other, back, rfl, hnodup, hbefore⟩
    · by_cases hbefore : name ∈ tags.map Prod.fst
      · exact .inr ⟨tags, name, text, [], rfl, hnodup, hbefore⟩
      · rw [List.map_append, List.map_singleton, ← List.concat_eq_append, List.nodup_concat]
        exact .inl ⟨hbefore, hnodup⟩
    · exact .inr ⟨front, first, other, back ++ [(name, text)], by simp, hnodup, hbefore⟩

/-- There is a verdict on all findings. -/
theorem exists_verdict (found : List (Except TagFault Tag)) : ∃ result, Verdict found result := by
  cases hsift : sift found with
  | error fault =>
    obtain ⟨front, back, hfound⟩ := sift_eq_error_iff.1 hsift
    exact ⟨_, .malformed hfound⟩
  | ok tags =>
    have hfound := sift_eq_ok_iff.1 hsift
    rcases nodup_or_exists_repeated tags with
      hnodup | ⟨front, name, text, back, rfl, hnodup, hbefore⟩
    · exact ⟨_, .accepted hfound hnodup⟩
    · exact ⟨_, .duplicate hfound hnodup hbefore⟩

/-! ## Reading -/

namespace Progress

variable {progress : Progress}

/-- All tags count as long as their names are new. -/
theorem foldl_take_of_nodup {front : List Tag} (h : ((front ++ tags).map Prod.fst).Nodup) :
    tags.foldl take ⟨front, none⟩ = ⟨front ++ tags, none⟩ := by
  induction tags generalizing front with
  | nil => rw [List.foldl_nil, List.append_nil]
  | cons tag tags ih =>
    have hnew : tag.1 ∉ front.map Prod.fst := by
      intro hmem
      rw [List.map_append, List.nodup_append] at h
      exact h.2.2 tag.1 hmem tag.1 List.mem_cons_self rfl
    have htake : take ⟨front, none⟩ tag = ⟨front ++ [tag], none⟩ := by
      rw [take, if_neg (by simpa using hnew)]
    rw [List.append_cons] at h ⊢
    rw [List.foldl_cons, htake, ih h]

/-- A name that is kept stays. -/
theorem repeated_foldl_take {name : String} (h : progress.repeated = some name) :
    (tags.foldl take progress).repeated = some name := by
  induction tags generalizing progress with
  | nil => exact h
  | cons tag tags ih =>
    refine ih ?_
    rw [take]
    split
    · rw [h, Option.some_or]
    · exact h

/-- **A round** over findings comes to the verdict on them. -/
theorem finish_of_verdict {found : List (Except TagFault Tag)} {result : Except TagFault (List Tag)}
    (h : Verdict found result) : (sift found).map (·.foldl take {}) >>= finish = result := by
  cases h with
  | malformed hfound =>
    rw [sift_eq_error_iff.2 ⟨_, _, hfound⟩]
    rfl
  | @duplicate front back name text hfound hnodup hbefore =>
    have hfront : front.foldl take {} = ⟨front, none⟩ := foldl_take_of_nodup hnodup
    have htake : (take ⟨front, none⟩ (name, text)).repeated = some name := by
      rw [take, if_pos (by simpa using hbefore)]
      rfl
    have hrepeated : ((front ++ (name, text) :: back).foldl take {}).repeated = some name := by
      rw [List.foldl_append, hfront, List.foldl_cons]
      exact repeated_foldl_take htake
    rw [sift_eq_ok_iff.2 hfound, Except.map, ok_bind, finish, hrepeated]
  | @accepted tags hfound hnodup =>
    have htags : tags.foldl take {} = ⟨tags, none⟩ := foldl_take_of_nodup hnodup
    rw [sift_eq_ok_iff.2 hfound, Except.map, ok_bind, htags]
    rfl

/-- Arguments are read by taking what is found in them. -/
theorem readPairs_eq (most : Nat) (progress : Progress) (tokens : List Token) :
    progress.readPairs most tokens =
      (sift (findingsWithin most tokens)).map (·.foldl take progress) := by
  induction most generalizing progress tokens with
  | zero => rfl
  | succ most ih =>
    rw [readPairs, findingsWithin]
    split
    · rfl
    · cases readPair tokens with
      | error fault => rfl
      | ok read =>
        obtain ⟨tag, rest⟩ := read
        cases rest with
        | nil => rfl
        | cons token rest =>
          by_cases hcomma : token = .sign ","
          · simp only [if_pos hcomma, ih, sift_cons_ok]
            cases sift (findingsWithin most rest) <;> rfl
          · simp only [if_neg hcomma]
            rfl

/-- An attribute is read by taking what is found in it. -/
theorem readAttribute_eq (progress : Progress) (entry : Attribute) :
    progress.readAttribute entry = (sift entry.findings).map (·.foldl take progress) := by
  rw [readAttribute, Attribute.findings]
  split
  · cases entry.body with
    | nothing => rfl
    | value => rfl
    | arguments delimiter tokens => exact readPairs_eq tokens.length progress tokens
  · rfl

end Progress

/-- The attributes are read by taking what is found in them all. -/
theorem foldlM_readAttribute (attributes : List Attribute) (progress : Progress) :
    attributes.foldlM Progress.readAttribute progress =
      (sift (findings attributes)).map (·.foldl Progress.take progress) := by
  induction attributes generalizing progress with
  | nil => rfl
  | cons entry attributes ih =>
    rw [List.foldlM_cons, Progress.readAttribute_eq, findings, List.flatMap_cons, sift_append,
      ← findings]
    cases sift entry.findings with
    | error fault => rfl
    | ok tags =>
      refine (ih _).trans ?_
      cases sift (findings attributes) with
      | error fault => rfl
      | ok more => exact congrArg Except.ok (List.foldl_append ..).symm

/-- **Reading tags** comes to the verdict on what is found. -/
theorem readTags_eq_iff {result : Except TagFault (List Tag)} :
    readTags attributes = result ↔ Verdict (findings attributes) result := by
  refine eq_iff_of_exists (exists_verdict (findings attributes)) fun {result} h => ?_
  rw [readTags, foldlM_readAttribute]
  exact Progress.finish_of_verdict h

/-- **Tags are accepted** if attributes hold them. -/
theorem readTags_eq_ok_iff : readTags attributes = .ok tags ↔ HoldTags attributes tags := by
  rw [readTags_eq_iff]
  constructor
  · intro h
    cases h with
    | accepted hfound hnodup => exact ⟨say_iff.2 hfound.symm, hnodup⟩
  · rintro ⟨hsay, hnodup⟩
    exact .accepted (say_iff.1 hsay).symm hnodup

/-! ## What is found by name -/

/-- Where names differ, a name finds its only text. -/
theorem lookup_eq_some_iff (h : (tags.map Prod.fst).Nodup) {name text : String} :
    tags.lookup name = some text ↔ (name, text) ∈ tags := by
  induction tags with
  | nil => simp
  | cons tag tags ih =>
    obtain ⟨first, other⟩ := tag
    obtain ⟨hfirst, hnodup⟩ := List.nodup_cons.1 h
    by_cases hname : name = first
    · subst hname
      have hno : ∀ text, (name, text) ∉ tags := fun _ hmem => hfirst (List.mem_map.2 ⟨_, hmem, rfl⟩)
      simp [hno, eq_comm]
    · have hother : (name == first) = false := by simpa using hname
      simp [List.lookup_cons, hother, ih hnodup, hname]

/-- **Tags that are accepted** are found by their names. -/
theorem tag?_eq_some_iff {field : FieldDescriptor} (h : readTags attributes = .ok field.tags)
    (name text : String) :
    field.tag? name = some text ↔ .ok (name, text) ∈ findings attributes := by
  rw [readTags_eq_iff] at h
  generalize findings attributes = found at h ⊢
  cases h with
  | accepted hfound hnodup =>
    rw [FieldDescriptor.tag?, lookup_eq_some_iff hnodup, hfound]
    simp

/-- **The same tags in another order**, or in other attributes, are accepted too. -/
theorem exists_readTags_of_perm (h : readTags attributes = .ok tags)
    (hperm : (findings others).Perm (findings attributes)) :
    ∃ more, readTags others = .ok more := by
  rw [readTags_eq_iff] at h
  cases h with
  | accepted hfound hnodup =>
    rw [hfound] at hperm
    obtain ⟨more, hmore, hsame⟩ : Relation.Comp (· = List.map Except.ok ·) List.Perm
        (findings others) tags := by
      rw [List.eq_map_comp_perm]
      exact hperm
    have hnames : (more.map Prod.fst).Nodup := (hsame.map Prod.fst).nodup_iff.2 hnodup
    refine ⟨more, ?_⟩
    rw [readTags_eq_iff]
    exact .accepted hmore hnames

/-- **Reading tags** comes to the verdict on what the attributes say, and to no other: what is wrong
first, else the first name that has come before, else all tags in their order. A name then finds
its only text, and finds it too where the same tags stand in another order or in other
attributes. -/
theorem readTags_exact (attributes : List Attribute) :
    (∀ found, Say attributes found ↔ found = findings attributes) ∧
    (∀ fault, .error fault ∈ findings attributes → fault.isDuplicate = false) ∧
    (∀ result, readTags attributes = result ↔ Verdict (findings attributes) result) ∧
    ∀ field : FieldDescriptor, readTags attributes = .ok field.tags →
      (∀ name text, field.tag? name = some text ↔ .ok (name, text) ∈ findings attributes) ∧
      ∀ others, (findings others).Perm (findings attributes) →
        ∃ tags, readTags others = .ok tags ∧
          ∀ name, { field with tags }.tag? name = field.tag? name := by
  refine ⟨fun found => say_iff, fun fault => isDuplicate_of_mem_findings,
    fun result => readTags_eq_iff, fun field h => ⟨tag?_eq_some_iff h, fun others hperm => ?_⟩⟩
  obtain ⟨tags, htags⟩ := exists_readTags_of_perm h hperm
  refine ⟨tags, htags, fun name => Option.ext fun text => ?_⟩
  have hother : FieldDescriptor.tag? { field with tags } name = some text ↔ _ :=
    tag?_eq_some_iff htags name text
  rw [hother, tag?_eq_some_iff h, hperm.mem_iff]

/-- A name that is repeated in front of a number, and two attributes that are made one in another
order. -/
theorem readTags_exact_of_mixed :
    let tag (tokens : List Token) : Attribute :=
      ⟨⟨false, ⟨"tag", by decide⟩, []⟩, .arguments .parenthesis tokens⟩
    let mixed : List Attribute :=
      [tag [.word "x", .sign "=", .string "1", .sign ",", .word "x", .sign "=", .string "2"],
        tag [.word "z", .sign "=", .word "3"]]
    let apart : List Attribute :=
      [tag [.word "json", .sign "=", .string "mail"], ⟨⟨false, ⟨"doc", by decide⟩, []⟩, .value⟩,
        tag [.word "validate", .sign "=", .string "email"]]
    let joined : List Attribute :=
      [tag [.word "validate", .sign "=", .string "email", .sign ",",
        .word "json", .sign "=", .string "mail", .sign ","]]
    readTags mixed = .error (.noText .literal) ∧
      readTags apart = .ok [("json", "mail"), ("validate", "email")] ∧
      ∃ tags, readTags joined = .ok tags ∧ tags.lookup "json" = some "mail" := by
  intro tag mixed apart joined
  obtain ⟨-, -, hverdict, -⟩ := readTags_exact mixed
  have hmixed : Verdict (findings mixed) (.error (.noText .literal)) :=
    @Verdict.malformed _ [("x", "1"), ("x", "2")] _ [] (by decide)
  let field : FieldDescriptor :=
    ⟨.named "email", "email", true, [("json", "mail"), ("validate", "email")]⟩
  have happart : readTags apart = .ok field.tags := by decide
  obtain ⟨-, -, -, hfield⟩ := readTags_exact apart
  obtain ⟨tags, htags, hlookup⟩ := (hfield field happart).2 joined (by decide)
  exact ⟨(hverdict _).2 hmixed, happart, tags, htags, hlookup "json"⟩

/-- Square brackets do as well as parentheses, and a keyword is a name. -/
theorem readTags_of_brackets :
    let tag (delimiter : Delimiter) (name : String) : Attribute :=
      ⟨⟨false, ⟨"tag", by decide⟩, []⟩,
        .arguments delimiter [.word name, .sign "=", .string "email"]⟩
    readTags [tag .bracket "validate"] = .ok [("validate", "email")] ∧
      readTags [tag .parenthesis "type"] = .ok [("type", "email")] := by
  decide

end FieldChecks.Derive
