import FieldChecks.Proofs.Validation.Violations

/-!
# Validation — a validator has no history

A validator changes as it serves: its registry keeps what makers have
made. `Grown` says how far such a change can go. Whatever the requests
were and however they ended, a grown validator answers as the one it has
grown from (`Grown.serve`), and what it has grown by depends on the
requests and not on their order (`Grown.registry_ext`).
-/

namespace FieldChecks

/-! ## Requests -/

/-- What can be asked of a validator. -/
inductive Request where
  /-- To validate a value by some lists. -/
  | validate (value : Value) (lists : List String)
  /-- To validate a value by one list. -/
  | checkValue (value : Value) (list : String)
  /-- To read a list. -/
  | read (list : String)

/-- What a validator answers. -/
inductive Answer where
  | verdict (result : Except ValidationError Unit)
  | checks (result : Except Failure (List BoundCheck))

namespace Validator

/-- The answer to a request, and the validator from then on. -/
def serve (validator : Validator) : Request → Answer × Validator
  | .validate value lists =>
    let (result, validator) := validator.validate value lists
    (.verdict result, validator)
  | .checkValue value list =>
    let (result, validator) := validator.checkValue value list
    (.verdict result, validator)
  | .read list =>
    let (result, validator) := validator.read list
    (.checks result, validator)

/-- A validator that has served some requests. -/
def after (validator : Validator) (requests : List Request) : Validator :=
  requests.foldl (fun validator request => (validator.serve request).2) validator

/-- The segments that are bound for a request. -/
def bound (validator : Validator) : Request → List String
  | .validate value lists => boundAlong validator.config validator.registry
      (stations validator.config [] (validator.config.checkSeparator.intercalate lists) value)
  | .checkValue value list =>
      boundAlong validator.config validator.registry (stations validator.config [] list value)
  | .read list => CheckList.bindable validator.config.argumentSeparator
      (CheckList.segments validator.config.checkSeparator list) validator.registry

/-! ## Growth -/

/-- **A validator that has grown**: it is `base`, with the checkers of the segments `kept` in its
registry. -/
structure Grown (kept : List String) (base validator : Validator) : Prop where
  config : validator.config = base.config
  keeps : CheckList.Keeps base.config.argumentSeparator kept base.registry validator.registry

variable {base validator other : Validator} {kept : List String}

theorem Grown.refl (base : Validator) : Grown [] base base :=
  ⟨rfl, CheckList.Keeps.refl _ _⟩

/-- A walk from a validator that has grown. -/
theorem Grown.checkValue (h : Grown kept base validator) (value : Value) (list : String) :
    (validator.checkValue value list).1 = (base.checkValue value list).1 ∧
      Grown (kept ++ base.bound (.checkValue value list)) base
        (validator.checkValue value list).2 := by
  obtain ⟨config, registry⟩ := validator
  obtain rfl : config = base.config := h.config
  obtain ⟨hfst, hkeeps⟩ := walkWithin_keeps h.keeps list value
  obtain ⟨hbase, -⟩ :=
    walkWithin_keeps (CheckList.Keeps.refl base.config.argumentSeparator base.registry) list value
  exact ⟨hfst.trans hbase.symm, rfl, hkeeps⟩

/-- **One request.** A validator that has grown answers as before, and grows by what the request
makes it bind. -/
theorem Grown.serve (h : Grown kept base validator) (request : Request) :
    (validator.serve request).1 = (base.serve request).1 ∧
      Grown (kept ++ base.bound request) base (validator.serve request).2 := by
  cases request with
  | validate value lists =>
    -- the two join the lists alike, having one configuration
    have hjoined : validator.validate value lists =
        validator.checkValue value (base.config.checkSeparator.intercalate lists) := by
      rw [Validator.validate, h.config]
    obtain ⟨hfst, hgrown⟩ := h.checkValue value (base.config.checkSeparator.intercalate lists)
    rw [← hjoined] at hfst hgrown
    exact ⟨congrArg Answer.verdict hfst, hgrown⟩
  | checkValue value list =>
    obtain ⟨hfst, hgrown⟩ := h.checkValue value list
    exact ⟨congrArg Answer.verdict hfst, hgrown⟩
  | read list =>
    obtain ⟨config, registry⟩ := validator
    obtain rfl : config = base.config := h.config
    obtain ⟨hfst, hkeeps⟩ :=
      h.keeps.bindAll (CheckList.segments base.config.checkSeparator list)
    exact ⟨congrArg Answer.checks hfst, rfl, hkeeps⟩

/-- **Any number of requests.** -/
theorem Grown.after (h : Grown kept base validator) (requests : List Request) :
    Grown (kept ++ requests.flatMap base.bound) base (validator.after requests) := by
  induction requests generalizing kept validator with
  | nil => simpa [Validator.after] using h
  | cons request requests ih =>
    have hrest := ih (h.serve request).2
    rwa [List.append_assoc] at hrest

/-- Validators that have grown by the same segments hold the same checkers and makers. -/
theorem Grown.registry_ext {others : List String} (h : Grown kept base validator)
    (hother : Grown others base other) (hmem : ∀ segment, segment ∈ kept ↔ segment ∈ others) :
    validator.registry.checkers = other.registry.checkers ∧
      validator.registry.makers = other.registry.makers := by
  have hkeeps := h.keeps.congr hmem
  refine ⟨Table.ext_get? fun name => ?_, h.keeps.makers.trans hother.keeps.makers.symm⟩
  exact (hkeeps.checker? name).trans (hother.keeps.checker? name).symm

/-- **A validator has no history.** After any requests it answers a further one as if it were the
first. Two requests can therefore change places: their answers are the same, and so are the
checkers and the makers in the end. -/
theorem serve_after (validator : Validator) :
    (∀ requests request,
      ((validator.after requests).serve request).1 = (validator.serve request).1) ∧
    ∀ first second,
      let forth := (validator.serve first).2.serve second
      let back := (validator.serve second).2.serve first
      (validator.serve first).1 = back.1 ∧ forth.1 = (validator.serve second).1 ∧
        forth.2.registry.checkers = back.2.registry.checkers ∧
        forth.2.registry.makers = back.2.registry.makers := by
  have hafter : ∀ requests request,
      ((validator.after requests).serve request).1 = (validator.serve request).1 :=
    fun requests request => (((Grown.refl validator).after requests).serve request).1
  refine ⟨hafter, fun first second => ?_⟩
  -- both orders grow by the same segments
  have hforth := (Grown.refl validator).after [first, second]
  have hback := (Grown.refl validator).after [second, first]
  obtain ⟨hcheckers, hmakers⟩ := hforth.registry_ext hback fun segment => by simp [or_comm]
  exact ⟨(hafter [second] first).symm, hafter [first] second, hcheckers, hmakers⟩

end Validator

end FieldChecks
