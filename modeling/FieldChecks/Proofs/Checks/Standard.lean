import FieldChecks.Checks.Custom
import FieldChecks.Proofs.CheckList.Provenance
import FieldChecks.Proofs.Value.Variant

/-!
# Checks — what comes with the library

The standard checkers are the built-in ones and what the built-in makers
make. Of a record they see its name at most: only `required` looks at the
fields, and asks them for no more than whether they are zero
(`Standard.eq_required_or_ignoresFields`). The checks to build with do not
look at them either (`CustomChecker.ignoresFields`). So a standard checker does not
tell values apart that are alike (`Standard.answersAlike`), nor variants
of a value (`Standard.eq_of_variant`).
-/

namespace FieldChecks

/-- **The standard checkers**: those that come with the library, and those that its makers make. -/
inductive Standard : Checker → Prop
  | builtIn {name : String} {checker : Checker} (h : (name, checker) ∈ builtInCheckers) :
      Standard checker
  | made {name argument : String} {maker : Maker} {checker : Checker}
      (h : (name, maker) ∈ builtInMakers) (hmake : maker.make argument = .ok checker) :
      Standard checker

/-- The checker says the same of all records of a name. -/
def IgnoresFields (checker : Checker) : Prop :=
  ∀ name fields others, checker (.record name fields) = checker (.record name others)

/-- The checker says the same of values that are alike, once their own layers are followed. -/
def AnswersAlike (checker : Checker) : Prop :=
  ∀ value other : Value, value.Alike other → value.kind ≠ .reference → other.kind ≠ .reference →
    checker value = checker other

/-! ## Checkers that ignore fields -/

theorem ignoresFields_textCheck (holds : String → Bool) (thing : String) :
    IgnoresFields (Format.textCheck holds thing) := fun _ _ _ => rfl

theorem ignoresFields_withoutChars (found : Char → Bool) (property : String) :
    IgnoresFields (Format.withoutChars found property) := fun _ _ _ => rfl

theorem ignoresFields_of_pattern {pattern : String} {checker : Checker}
    (h : Pattern.checker pattern = .ok checker) : IgnoresFields checker := by
  unfold Pattern.checker at h
  split at h
  · cases h
  · cases h
    exact fun _ _ _ => rfl

/-- A pattern that cannot be read is a fault of the check, whatever the value. -/
theorem ignoresFields_fixed (pattern : String) : IgnoresFields (Pattern.fixed pattern) := by
  unfold Pattern.fixed
  cases h : Pattern.checker pattern with
  | error cause => exact fun _ _ _ => rfl
  | ok checker => exact ignoresFields_of_pattern h

/-- **All built-in checkers but the first ignore fields**; the first one is `required`. -/
theorem ignoresFields_of_mem_tail :
    ∀ entry ∈ builtInCheckers.tail, IgnoresFields entry.2 := by
  simp only [builtInCheckers, List.tail_cons, List.forall_mem_cons]
  refine ⟨?email, ?url, ?ip, ?ipv4, ?ipv6, ?mac, ?domain, ?uuid, ?mongoid, ?ssn, ?isbn, ?npi,
    ?creditcard, ?luhn, ?alpha, ?alphanum, ?numeric, ?hexadecimal, ?base64, ?ascii, ?lowercase,
    ?uppercase, ?boolean, ?json, ?rgb, ?rgba, by simp⟩
  -- all of them ask for the text of the value first, and no record has one
  case url | isbn | npi | creditcard | luhn | json => exact fun _ _ _ => rfl
  case email | ip | ipv4 | ipv6 | mac | boolean => exact ignoresFields_textCheck _ _
  case ascii | lowercase | uppercase => exact ignoresFields_withoutChars _ _
  all_goals exact ignoresFields_fixed _

/-- **What the built-in makers make ignores fields.** -/
theorem ignoresFields_of_made {name argument : String} {maker : Maker} {checker : Checker}
    (h : (name, maker) ∈ builtInMakers) (hmake : maker.make argument = .ok checker) :
    IgnoresFields checker := by
  have hsize : ∀ relation, (Size.maker relation).make argument = .ok checker →
      IgnoresFields checker := by
    intro relation hmade
    cases hmade
    exact fun _ _ _ => rfl
  simp only [builtInMakers, List.mem_cons, Prod.mk.injEq, List.not_mem_nil, or_false] at h
  rcases h with ⟨-, rfl⟩ | ⟨-, rfl⟩ | ⟨-, rfl⟩ | ⟨-, rfl⟩ | ⟨-, rfl⟩ | ⟨-, rfl⟩
  · exact hsize _ hmake
  · exact hsize _ hmake
  · exact hsize _ hmake
  · exact hsize _ hmake
  · exact ignoresFields_of_pattern hmake
  · exact ignoresFields_of_pattern hmake

theorem Standard.eq_required_or_ignoresFields {checker : Checker} (h : Standard checker) :
    checker = required ∨ IgnoresFields checker := by
  cases h with
  | builtIn hmem =>
    rcases List.mem_cons.1 hmem with heq | hmem
    · exact .inl (congrArg Prod.snd heq)
    · exact .inr (ignoresFields_of_mem_tail _ hmem)
  | made hmem hmake => exact .inr (ignoresFields_of_made hmem hmake)

/-! ## Checks to build with -/

theorem answersAlike_required : AnswersAlike required := by
  intro value other halike _ _
  rw [required, required, halike.isZero_eq]

/-- Values that are alike and no layers are the same, or records of one name. -/
theorem IgnoresFields.answersAlike {checker : Checker} (h : IgnoresFields checker) :
    AnswersAlike checker := by
  intro value other halike hvalue hother
  -- neither of the two is a layer, so each resolves to itself
  have hself := Value.resolveWithin_of_kind_ne hvalue Value.layerLimit
  have hself' := Value.resolveWithin_of_kind_ne hother Value.layerLimit
  cases halike with
  | unresolved hnone _ =>
    rw [Value.resolve, hself] at hnone
    cases hnone
  | plain hsome hsome' _ =>
    rw [Value.resolve, hself] at hsome
    rw [Value.resolve, hself'] at hsome'
    cases hsome
    cases hsome'
    rfl
  | record hsome hsome' _ _ =>
    rw [Value.resolve, hself] at hsome
    rw [Value.resolve, hself'] at hsome'
    cases hsome
    cases hsome'
    exact h _ _ _

/-- **Standard checkers answer alike.** -/
theorem Standard.answersAlike {checker : Checker} (h : Standard checker) :
    AnswersAlike checker := by
  rcases h.eq_required_or_ignoresFields with rfl | hignores
  · exact answersAlike_required
  · exact hignores.answersAlike

/-! ## Checkers and variants -/

section Variant

variable {variation : Variation} {checker : Checker} {value other : Value}

/-- Variants that are no layers are the same, or records of one name. -/
theorem IgnoresFields.eq_of_variant (h : IgnoresFields checker)
    (hvariant : value.Variant variation other) (hkind : value.kind ≠ .reference) :
    checker value = checker other := by
  cases hvariant with
  | same value => rfl
  | layer _ => exact absurd rfl hkind
  | record _ _ => exact h _ _ _

/-- **Standard checkers do not tell variants apart**, whatever the way in which they vary. -/
theorem Standard.eq_of_variant (h : Standard checker) (hvariant : value.Variant variation other)
    (hkind : value.kind ≠ .reference) : checker value = checker other := by
  rcases h.eq_required_or_ignoresFields with rfl | hignores
  · rw [required, required, hvariant.isZero_eq]
  · exact hignores.eq_of_variant hvariant hkind

end Variant

/-! ## The registry of the standard checkers -/

namespace Registry

variable {P : Checker → Prop} {registry : Registry}

theorem Admits.registerAll (h : registry.Admits P) {entries : List (String × Checker)}
    (hP : ∀ entry ∈ entries, P entry.2) :
    (entries.foldl (fun registry (name, checker) => registry.register name checker)
      registry).Admits P :=
  List.foldlRecOn entries _ h fun _ h entry hentry => h.register entry.1 (hP entry hentry)

theorem Admits.registerAllMakers (h : registry.Admits P) {entries : List (String × Maker)}
    (hP : ∀ entry ∈ entries, ∀ argument checker, entry.2.make argument = .ok checker → P checker) :
    (entries.foldl (fun registry (name, maker) => registry.registerMaker name maker)
      registry).Admits P :=
  List.foldlRecOn entries _ h fun _ h entry hentry => h.registerMaker entry.1 (hP entry hentry)

/-- The built-in checkers and makers bring the standard checkers and no others. -/
theorem Admits.withBuiltIns (h : registry.Admits P) (hP : ∀ checker, Standard checker → P checker) :
    registry.withBuiltIns.Admits P := by
  have hcheckers := h.registerAll fun entry hentry => hP entry.2 (.builtIn hentry)
  exact hcheckers.registerAllMakers fun entry hentry argument checker hmake =>
    hP checker (.made hentry hmake)

theorem builtIn_admits : builtIn.Admits Standard :=
  Admits.empty.withBuiltIns fun _ => id

end Registry

end FieldChecks
