import FieldChecks.Proofs.Checks.Size
import FieldChecks.Proofs.Number.FloatOrder

/-!
# Checks of size — four relations, one comparison

The four relations share everything but the last step: what is compared
(`Compares`) and why nothing is compared (`refused_or_compares`) do not
depend on the relation. The last step is an order on quantities, integers
and floating-point numbers alike, in which only a NaN stands beside the
others (`Quantity.incomparable_iff`). So the four checks of an argument
refuse together, and otherwise answer as one order does
(`comparisons_consistent`): equal is no more and no less, and of two bounds
the larger one is the harder to reach and the easier to keep under.
-/

namespace FieldChecks

/-- The error says that nothing was compared: values of the kind have no size, or the argument
writes no bound. -/
def CheckError.IsRefusal : CheckError → Prop
  | .unsupportedKind _ | .argument _ _ => True
  | .missing | .invalid _ | .pattern _ => False

namespace Size

open Integer (Reads)

/-! ## Quantities -/

/-- What is compared: an integer or a floating-point number. -/
inductive Quantity where
  | integer (n : Int)
  | float (x : Binary64)
  deriving Repr, DecidableEq

namespace Quantity

/-- Whether a quantity is not a number. -/
def isNaN : Quantity → Bool
  | .integer _ => false
  | .float x => x.isNaN

/-- The order of quantities of one kind, by their values. A NaN has none. -/
inductive Le : Quantity → Quantity → Prop
  | integer {a b : Int} (h : a ≤ b) : Le (.integer a) (.integer b)
  | float {x y : Binary64} (hx : x.isNaN = false) (hy : y.isNaN = false) (h : x.units ≤ y.units) :
      Le (.float x) (.float y)

instance : LE Quantity := ⟨Le⟩

/-- Neither quantity is at most the other. -/
def Incomparable (a b : Quantity) : Prop :=
  ¬ a ≤ b ∧ ¬ b ≤ a

theorem integer_le_iff {a b : Int} : integer a ≤ integer b ↔ a ≤ b :=
  ⟨fun | .integer h => h, .integer⟩

theorem float_le_iff {x y : Binary64} :
    float x ≤ float y ↔ x.isNaN = false ∧ y.isNaN = false ∧ x.units ≤ y.units :=
  ⟨fun | .float hx hy h => ⟨hx, hy, h⟩, fun ⟨hx, hy, h⟩ => .float hx hy h⟩

theorem le_trans {a b c : Quantity} (hab : a ≤ b) (hbc : b ≤ c) : a ≤ c := by
  cases hab with
  | integer hab =>
    cases hbc with
    | integer hbc => exact .integer (Int.le_trans hab hbc)
  | float hx _ hab =>
    cases hbc with
    | float _ hz hbc => exact .float hx hz (Int.le_trans hab hbc)

end Quantity

/-- Quantities stand in a relation by their order. -/
def Relation.Orders : Relation → Quantity → Quantity → Prop
  | .atMost, size, bound => size ≤ bound
  | .atLeast, size, bound => bound ≤ size
  | .equal, size, bound => size ≤ bound ∧ bound ≤ size
  | .notEqual, size, bound => ¬ (size ≤ bound ∧ bound ≤ size)

namespace Relation

theorem orders_integer_iff (relation : Relation) (size bound : Int) :
    relation.Orders (.integer size) (.integer bound) ↔ relation.Relates size bound := by
  cases relation with
  | atMost => exact Quantity.integer_le_iff
  | atLeast => exact Quantity.integer_le_iff
  | equal =>
    rw [Orders, Quantity.integer_le_iff, Quantity.integer_le_iff]
    exact Int.le_antisymm_iff.symm
  | notEqual =>
    rw [Orders, Quantity.integer_le_iff, Quantity.integer_le_iff]
    exact not_congr Int.le_antisymm_iff.symm

/-- **Comparing floating-point numbers decides the relation**, also where one of them is a NaN. -/
theorem holds_compare?_iff (relation : Relation) (x y : Binary64) :
    relation.holds (x.compare? y) = true ↔ relation.Orders (.float x) (.float y) := by
  by_cases hnan : x.isNaN = true ∨ y.isNaN = true
  · -- nothing is at most a NaN or at least one, and only "not equal" holds
    have hle : ¬ Quantity.float x ≤ .float y := by
      rw [Quantity.float_le_iff]
      rcases hnan with h | h <;> simp [h]
    have hge : ¬ Quantity.float y ≤ .float x := by
      rw [Quantity.float_le_iff]
      rcases hnan with h | h <;> simp [h]
    rw [Binary64.compare?_eq_none_iff.2 hnan]
    cases relation <;> simp [holds, Orders, hle, hge]
  · obtain ⟨hx, hy⟩ : x.isNaN = false ∧ y.isNaN = false := by simpa using hnan
    rw [Binary64.compare?_eq hx hy, holds_compare_iff, ← orders_integer_iff]
    have hle : Quantity.integer x.units ≤ .integer y.units ↔ Quantity.float x ≤ .float y := by
      simp [Quantity.integer_le_iff, Quantity.float_le_iff, hx, hy]
    have hge : Quantity.integer y.units ≤ .integer x.units ↔ Quantity.float y ≤ .float x := by
      simp [Quantity.integer_le_iff, Quantity.float_le_iff, hx, hy]
    cases relation <;> simp only [Orders, hle, hge]

end Relation

/-! ## What is compared -/

variable {relation : Relation} {argument : String} {value : Value} {size bound : Quantity}

/-- **What a size check compares**: the size of a value, and the bound that the argument writes for
values of its kind. -/
inductive Compares (argument : String) : Value → Quantity → Quantity → Prop
  | integer {value : Value} {measure : Measure} {bound : Int}
      (hmeasure : measure? value = some measure)
      (hbound : Reads measure.width (Text.trim argument) bound) :
      Compares argument value (.integer measure.size) (.integer bound)
  | float {x bound : Binary64} (hbound : Binary64.read (Text.trim argument) = .ok bound) :
      Compares argument (.float x) (.float x) (.float bound)

/-- Size and bound compare with each other unless one of them is a NaN. -/
theorem Compares.incomparable_iff (h : Compares argument value size bound) :
    size.Incomparable bound ↔ size.isNaN = true ∨ bound.isNaN = true := by
  cases h with
  | integer hmeasure hbound =>
    simp only [Quantity.Incomparable, Quantity.integer_le_iff, Quantity.isNaN, Bool.false_eq_true,
      or_self, iff_false]
    omega
  | @float x y hbound =>
    simp only [Quantity.Incomparable, Quantity.float_le_iff, Quantity.isNaN]
    cases x.isNaN <;> cases y.isNaN <;> simp
    omega

/-- The value passes the check of a relation. -/
def Passes (relation : Relation) (argument : String) (value : Value) : Prop :=
  check relation argument value = .ok ()

/-- A judgement passes or tells what is wrong. -/
theorem judge_cases (relation : Relation) (order : Option Ordering) (left right : String) :
    (relation.holds order = true ∧ judge relation order left right = .ok ()) ∨
      (¬ relation.holds order = true ∧
        ∃ message, judge relation order left right = .error (.invalid message)) := by
  by_cases h : relation.holds order = true
  · exact .inl ⟨h, by rw [judge, if_pos h]⟩
  · exact .inr ⟨h, _, by rw [judge, if_neg h]⟩

/-- **What is compared is judged by its order**, and never refused. -/
theorem Compares.check_cases (h : Compares argument value size bound) (relation : Relation) :
    (relation.Orders size bound ∧ check relation argument value = .ok ()) ∨
      (¬ relation.Orders size bound ∧
        ∃ message, check relation argument value = .error (.invalid message)) := by
  cases h with
  | @integer _ measure bound hmeasure hbound =>
    rw [check_of_reads hmeasure hbound, answer, relation.orders_integer_iff]
    by_cases hrelates : relation.Relates measure.size bound
    · exact .inl ⟨hrelates, if_pos hrelates⟩
    · exact .inr ⟨hrelates, _, if_neg hrelates⟩
  | @float x bound hbound =>
    have hcheck : check relation argument (.float x) =
        judge relation (x.compare? bound) x.rounded bound.rounded := by
      rw [check, compareFloat, boundOf_of_ok hbound, ok_bind]
    rw [hcheck, ← relation.holds_compare?_iff]
    exact judge_cases ..

theorem Compares.passes_iff (h : Compares argument value size bound) :
    Passes relation argument value ↔ relation.Orders size bound := by
  rw [Passes]
  rcases h.check_cases relation with ⟨horders, hcheck⟩ | ⟨horders, message, hcheck⟩
  · exact iff_of_true hcheck horders
  · rw [hcheck]
    exact iff_of_false nofun horders

theorem Compares.not_isRefusal (h : Compares argument value size bound) {error : CheckError}
    (hcheck : check relation argument value = .error error) : ¬ error.IsRefusal := by
  rcases h.check_cases relation with ⟨-, hok⟩ | ⟨-, message, hinvalid⟩
  · rw [hok] at hcheck
    cases hcheck
  · rw [hinvalid] at hcheck
    cases hcheck
    exact id

/-- All checks of the argument refuse the value, with one error. -/
def Refused (argument : String) (value : Value) : Prop :=
  ∃ error : CheckError, error.IsRefusal ∧
    ∀ relation, check relation argument value = .error error

/-- Checks that first read a bound refuse an argument that cannot be read. -/
theorem Refused.of_error {α φ : Type} {read : String → Except φ α} {message : φ → String} {fault : φ}
    (hread : read (Text.trim argument) = .error fault)
    (hcheck : ∀ relation, ∃ next, check relation argument value =
      boundOf read message argument >>= next) : Refused argument value := by
  refine ⟨.argument argument (message fault), trivial, fun relation => ?_⟩
  obtain ⟨next, hnext⟩ := hcheck relation
  rw [hnext, boundOf_of_error hread, error_bind]

theorem refused_or_compares_of_measure {measure : Measure} (argument : String)
    (hmeasure : measure? value = some measure) :
    Refused argument value ∨ ∃ size bound, Compares argument value size bound := by
  rcases check_of_measure hmeasure with ⟨hwidth, hcheck⟩ | ⟨hwidth, -, n, -, hcheck⟩
  · cases hread : Integer.readSigned (Text.trim argument) with
    | ok bound =>
      have hreads := Integer.reads_signed_iff.2 ⟨bound, hread, rfl⟩
      exact .inr ⟨_, _, .integer hmeasure (hwidth ▸ hreads)⟩
    | error fault => exact .inl (.of_error hread fun relation => ⟨_, hcheck relation argument⟩)
  · cases hread : Integer.readUnsigned (Text.trim argument) with
    | ok bound =>
      have hreads := Integer.reads_unsigned_iff.2 ⟨bound, hread, rfl⟩
      exact .inr ⟨_, _, .integer hmeasure (hwidth ▸ hreads)⟩
    | error fault => exact .inl (.of_error hread fun relation => ⟨_, hcheck relation argument⟩)

theorem refused_or_compares_float (argument : String) (x : Binary64) :
    Refused argument (.float x) ∨ ∃ size bound, Compares argument (.float x) size bound := by
  cases hread : Binary64.read (Text.trim argument) with
  | ok bound => exact .inr ⟨_, _, .float hread⟩
  | error fault => exact .inl (.of_error hread fun relation => ⟨_, rfl⟩)

/-- **Nothing is compared for a reason that all relations share.** -/
theorem refused_or_compares (argument : String) (habsent : value ≠ .absent) :
    Refused argument value ∨ ∃ size bound, Compares argument value size bound := by
  cases hmeasure : measure? value with
  | some measure => exact refused_or_compares_of_measure argument hmeasure
  | none =>
    cases value with
    | absent => exact absurd rfl habsent
    | float x => exact refused_or_compares_float argument x
    | int n => cases hmeasure
    | uint n => cases hmeasure
    | string s => cases hmeasure
    | sequence length => cases hmeasure
    -- no value of another kind has a size
    | _ => exact .inl ⟨.unsupportedKind _, trivial, fun _ => rfl⟩

/-! ## The four checks together -/

/-- A refusal by one of the checks is one by all of them. -/
theorem check_of_refusal {error : CheckError} (h : check relation argument value = .error error)
    (herror : error.IsRefusal) (other : Relation) : check other argument value = .error error := by
  have habsent : value ≠ .absent := by
    rintro rfl
    cases h
  rcases refused_or_compares argument habsent with ⟨refusal, -, hall⟩ | ⟨size, bound, hcompares⟩
  · rw [hall] at h
    rw [hall, h]
  · exact absurd herror (hcompares.not_isRefusal h)

/-- **The checks of an argument are consistent.** They refuse together and with one error. Otherwise
an absent value passes all of them, and any other value has a size that is compared with a bound:
equal is at least and at most, not equal is the opposite of equal, and one of at least and at most
holds unless a NaN is involved, when only not equal does. Of two bounds, who reaches the larger one
reaches the smaller, and who keeps under the smaller one keeps under the larger. -/
theorem comparisons_consistent (argument : String) (value : Value) :
    (∀ relation : Relation, ∃ maker, builtInMakers.lookup relation.makerName = some maker ∧
      maker.make argument = .ok (check relation argument)) ∧
    (∀ relation error, check relation argument value = .error error → error.IsRefusal →
      ∀ other, check other argument value = .error error) ∧
    ((∀ relation error, check relation argument value = .error error → ¬ error.IsRefusal) →
      (value = .absent → ∀ relation, Passes relation argument value) ∧
      (value ≠ .absent → ∃ size bound, Compares argument value size bound ∧
        (size.Incomparable bound ↔ size.isNaN = true ∨ bound.isNaN = true) ∧
        (Passes .equal argument value ↔
          Passes .atLeast argument value ∧ Passes .atMost argument value) ∧
        (Passes .notEqual argument value ↔ ¬ Passes .equal argument value) ∧
        (¬ size.Incomparable bound →
          Passes .atLeast argument value ∨ Passes .atMost argument value) ∧
        (size.Incomparable bound →
          ¬ Passes .atLeast argument value ∧ ¬ Passes .atMost argument value ∧
          ¬ Passes .equal argument value ∧ Passes .notEqual argument value))) ∧
    ∀ other size bound larger, Compares argument value size bound →
      Compares other value size larger → bound ≤ larger →
      (Passes .atLeast other value → Passes .atLeast argument value) ∧
      (Passes .atMost argument value → Passes .atMost other value) := by
  refine ⟨fun relation => ⟨maker relation, relation.lookup_makerName, rfl⟩,
    fun relation error => check_of_refusal, fun hcompared => ⟨?absent, fun habsent => ?other⟩,
    ?bounds⟩
  case absent =>
    rintro rfl relation
    rfl
  case other =>
    rcases refused_or_compares argument habsent with ⟨error, herror, hall⟩ | ⟨size, bound, h⟩
    · exact absurd herror (hcompared .equal error (hall .equal))
    · refine ⟨size, bound, h, h.incomparable_iff, ?_⟩
      simp only [h.passes_iff, Relation.Orders, Quantity.Incomparable]
      tauto
  case bounds =>
    intro other size bound larger h hother hle
    simp only [h.passes_iff, hother.passes_iff, Relation.Orders]
    exact ⟨Quantity.le_trans hle, fun hsize => Quantity.le_trans hsize hle⟩

/-- A NaN against an infinity, an argument that all checks refuse, and an integer that reaches a
bound and with it a smaller one. -/
theorem comparisons_consistent_of_nan :
    (¬ Passes .atMost "inf" (.float (.nan false)) ∧ Passes .notEqual "inf" (.float (.nan false))) ∧
    check .notEqual "2.5" (.int 2) = .error (.argument "2.5" "invalid digit found in string") ∧
    Passes .atLeast "-3" (.int 5) := by
  obtain ⟨-, -, hnan, -⟩ := comparisons_consistent "inf" (.float (.nan false))
  obtain ⟨-, hrefused, -, -⟩ := comparisons_consistent "2.5" (.int 2)
  obtain ⟨-, -, -, hbounds⟩ := comparisons_consistent "-3" (.int 5)
  refine ⟨?_, ?_, ?_⟩
  · have hinf : Binary64.read (Text.trim "inf") = .ok (.infinity false) := by decide
    have hcompares : Compares "inf" (.float (.nan false)) _ _ := .float hinf
    obtain ⟨size, bound, hpair, hincomparable, -, -, -, hfail⟩ :=
      (hnan fun _ _ => hcompares.not_isRefusal).2 nofun
    cases hpair with
    | integer hmeasure _ => cases hmeasure
    | float _ =>
      obtain ⟨-, hmost, -, hdifferent⟩ := hfail (hincomparable.2 (.inl (by decide)))
      exact ⟨hmost, hdifferent⟩
  · exact hrefused .equal (.argument "2.5" "invalid digit found in string") rfl trivial .notEqual
  · have hmeasure : measure? (.int 5) = some ⟨"", 5, .signed⟩ := rfl
    have hless : Reads .signed (Text.trim "-3") (-3) :=
      Integer.reads_signed_iff.2 ⟨-3, by decide, rfl⟩
    have hmore : Reads .signed (Text.trim "4") 4 := Integer.reads_signed_iff.2 ⟨4, by decide, rfl⟩
    exact (hbounds "4" _ _ _ (.integer hmeasure hless) (.integer hmeasure hmore)
      (.integer (by decide))).1 rfl

end Size

end FieldChecks
