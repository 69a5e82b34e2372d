import FieldChecks.Json.Document
import FieldChecks.Proofs.Checks.Comparison

/-!
# Checks of size — one integer, two views

An integer is seen with a sign or without one, and a bound is read for the
view. Where the view has the bound, sizes compare as the integers that they
are; where it does not, the argument is refused and every relation fails
(`passes_view_iff`). So a view matters in two places only: an unsigned
integer reaches no negative bound, and a signed one keeps under no bound of
`2 ^ 63` or more (`integers_compare_by_value`). A number of a JSON document
changes its view at `2 ^ 63`, and there alone a larger number may fail where
a smaller one passes (`checks_refuse_other_views`).
-/

namespace FieldChecks

namespace Integer

/-- An integer as a value, seen in a width. -/
def Width.view : Width → Int → Value
  | .signed, n => .int (.ofInt n)
  | .unsigned, n => .uint (.ofNat n.toNat)

/-- The integers of either width. -/
def InRange (n : Int) : Prop :=
  -(Nat.pow 2 63 : Int) ≤ n ∧ n < (Nat.pow 2 64 : Int)

theorem Width.Fits.inRange {width : Width} {n : Int} (h : width.Fits n) : InRange n := by
  have hsigned : Nat.pow 2 63 = 9223372036854775808 := rfl
  have hunsigned : Nat.pow 2 64 = 18446744073709551616 := rfl
  cases width with
  | signed => exact ⟨h.1, Int.lt_trans h.2 (by omega)⟩
  | unsigned => exact ⟨Int.le_trans (by omega) h.1, h.2⟩

/-- Each width leaves out one end of the range. -/
theorem InRange.fits_iff {n : Int} (h : InRange n) (width : Width) :
    width.Fits n ↔ (width = .unsigned → 0 ≤ n) ∧ (width = .signed → n < (Nat.pow 2 63 : Int)) := by
  cases width with
  | signed => exact ⟨fun hfits => ⟨nofun, fun _ => hfits.2⟩, fun hends => ⟨h.1, hends.2 rfl⟩⟩
  | unsigned => exact ⟨fun hfits => ⟨fun _ => hfits.1, nofun⟩, fun hends => ⟨hends.1 rfl, h.2⟩⟩

end Integer

namespace Size

open Integer (Width Reads WritesPlainly InRange)

variable {argument : String} {width : Width} {n m bound : Int} {relation : Relation}

/-- An integer measures itself. -/
theorem measure?_view (h : width.Fits n) : measure? (width.view n) = some ⟨"", n, width⟩ := by
  have hsigned : Nat.pow 2 63 = 9223372036854775808 := rfl
  have hunsigned : Nat.pow 2 64 = 18446744073709551616 := rfl
  cases width with
  | signed =>
    obtain ⟨hleast, hmost⟩ := h
    have hvalue : (Int64.ofInt n).toInt = n := Int64.toInt_ofInt_of_le (by omega) (by omega)
    rw [Width.view, measure?, hvalue]
  | unsigned =>
    obtain ⟨hleast, hmost⟩ := h
    obtain ⟨k, rfl⟩ := Int.eq_ofNat_of_zero_le hleast
    have hvalue : (UInt64.ofNat k).toNat = k :=
      UInt64.toNat_ofNat_of_lt' (by rw [UInt64.size]; omega)
    rw [Width.view, measure?, Int.toNat_natCast, hvalue]

/-- A bound that the view has is compared with. -/
theorem check_view_of_fits (hbound : WritesPlainly (Text.trim argument).toList bound)
    (h : width.Fits n) (hfits : width.Fits bound) :
    check relation argument (width.view n) = answer relation "" n bound :=
  check_of_reads (measure?_view h) (hbound.reads_iff.2 ⟨rfl, hfits⟩)

/-- A bound that the view does not have is refused, whatever the relation. -/
theorem check_view_of_not_fits (hbound : WritesPlainly (Text.trim argument).toList bound)
    (h : width.Fits n) (hfits : ¬ width.Fits bound) :
    ∃ fault : IntegerFault, ∀ relation,
      check relation argument (width.view n) = .error (.argument argument fault.message) := by
  have hnone : ∀ other, ¬ Reads width (Text.trim argument) other :=
    fun _ hother => hfits (hbound.reads_iff.1 hother).2
  obtain ⟨fault, hcheck⟩ : ∃ fault : IntegerFault,
      check .equal argument (width.view n) = .error (.argument argument fault.message) :=
    check_of_not_reads (measure?_view h) hnone
  exact ⟨fault, check_of_refusal hcheck trivial⟩

/-- **An integer passes in a view** if it stands in the relation to the bound and the view has the
bound. -/
theorem passes_view_iff (hbound : WritesPlainly (Text.trim argument).toList bound)
    (h : width.Fits n) (relation : Relation) :
    Passes relation argument (width.view n) ↔ width.Fits bound ∧ relation.Relates n bound := by
  by_cases hfits : width.Fits bound
  · rw [Passes, check_view_of_fits hbound h hfits, answer]
    by_cases hrelates : relation.Relates n bound <;> simp [hfits, hrelates]
  · obtain ⟨fault, hcheck⟩ := check_view_of_not_fits hbound h hfits
    rw [Passes, hcheck]
    simp [hfits]

/-! ## Numbers of documents -/

/-- A number of a JSON document. -/
def ofJson (n : Int) : Value :=
  (Json.Document.number (.integer n)).toValue

theorem isSigned_iff : Json.isSigned n = true ↔ Width.signed.Fits n := by
  simp only [Json.isSigned, Width.Fits, Bool.and_eq_true, decide_eq_true_eq]

/-- **A number of a document is seen with a sign below `2 ^ 63`**, and without one from there on. -/
theorem ofJson_eq_view (h : InRange n) :
    ∃ width : Width, width.Fits n ∧ (width = .signed ↔ n < (Nat.pow 2 63 : Int)) ∧
      ofJson n = width.view n := by
  have hjson : ofJson n = if Json.isSigned n then .int (.ofInt n) else .uint (.ofNat n.toNat) := rfl
  have hpow : Nat.pow 2 63 = 9223372036854775808 := rfl
  obtain ⟨hleast, hmost⟩ := h
  by_cases hlt : n < (Nat.pow 2 63 : Int)
  · have hfits : Width.signed.Fits n := ⟨hleast, hlt⟩
    refine ⟨.signed, hfits, iff_of_true rfl hlt, ?_⟩
    rw [hjson, if_pos (isSigned_iff.2 hfits), Width.view]
  · have hfits : ¬ Width.signed.Fits n := fun hfits => hlt hfits.2
    refine ⟨.unsigned, ⟨by omega, hmost⟩, iff_of_false nofun hlt, ?_⟩
    rw [hjson, if_neg (mt isSigned_iff.1 hfits), Width.view]

/-- Over a number of a document, a bound that is reached stays reached, unless the bound is negative
and the number loses its sign. -/
theorem passes_atLeast_mono (hbound : WritesPlainly (Text.trim argument).toList bound)
    (hn : InRange n) (hm : InRange m) (hle : n ≤ m) (hview : bound < 0 → m < (Nat.pow 2 63 : Int))
    (h : Passes .atLeast argument (ofJson n)) : Passes .atLeast argument (ofJson m) := by
  obtain ⟨width, hfits, -, hjson⟩ := ofJson_eq_view hn
  obtain ⟨other, hother, hsigned, hotherJson⟩ := ofJson_eq_view hm
  rw [hjson, passes_view_iff hbound hfits] at h
  rw [hotherJson, passes_view_iff hbound hother]
  obtain ⟨hhas, hreached⟩ := h
  have hmreached : bound ≤ m := Int.le_trans hreached hle
  refine ⟨?_, hmreached⟩
  -- the bound lies between the least integer of the new view and the number itself
  cases other with
  | signed => exact ⟨hhas.inRange.1, Int.lt_of_le_of_lt hmreached (hsigned.1 rfl)⟩
  | unsigned =>
    have hnonneg : ¬ bound < 0 := fun hneg => nomatch hsigned.2 (hview hneg)
    exact ⟨Int.not_lt.1 hnonneg, Int.lt_of_le_of_lt hmreached hm.2⟩

/-! ## The two views -/

/-- **Integers compare by value in every view that has the bound**, and the argument is refused in a
view that does not have it. So equal is exact in both views, at least in both but for an unsigned
integer and a negative bound, and at most in both but for a signed integer and a bound of `2 ^ 63`
or more. An integer and a bound that both views have are checked alike in both. A number of a
document is seen with a sign below `2 ^ 63`, and reaches every bound that a smaller one reaches, as
long as a negative bound does not meet a number without a sign. The canonical text of a bound is
one of the arguments that write it. -/
theorem integers_compare_by_value {argument : String} {bound : Int} (hrange : InRange bound)
    (hbound : WritesPlainly (Text.trim argument).toList bound) :
    (∀ relation : Relation, ∃ maker, builtInMakers.lookup relation.makerName = some maker ∧
      maker.make argument = .ok (check relation argument)) ∧
    (∀ (width : Width) n, width.Fits n →
      (width.Fits bound → ∀ relation : Relation,
        (Passes relation argument (width.view n) ↔ relation.Relates n bound)) ∧
      (¬ width.Fits bound → ∃ fault : IntegerFault, ∀ relation,
        check relation argument (width.view n) = .error (.argument argument fault.message)) ∧
      (Passes .equal argument (width.view n) ↔ n = bound) ∧
      (Passes .notEqual argument (width.view n) ↔ n ≠ bound ∧ width.Fits bound) ∧
      (Passes .atLeast argument (width.view n) ↔ n ≥ bound ∧ (width = .unsigned → 0 ≤ bound)) ∧
      (Passes .atMost argument (width.view n) ↔
        n ≤ bound ∧ (width = .signed → bound < (Nat.pow 2 63 : Int)))) ∧
    (∀ n, Width.signed.Fits n → Width.unsigned.Fits n → Width.signed.Fits bound →
      Width.unsigned.Fits bound → ∀ relation,
        check relation argument (Width.signed.view n) =
          check relation argument (Width.unsigned.view n)) ∧
    (∀ n, InRange n → ∃ width : Width, width.Fits n ∧
      (width = .signed ↔ n < (Nat.pow 2 63 : Int)) ∧ ofJson n = width.view n) ∧
    (∀ n m, InRange n → InRange m → n ≤ m → (bound < 0 → m < (Nat.pow 2 63 : Int)) →
      Passes .atLeast argument (ofJson n) → Passes .atLeast argument (ofJson m)) ∧
    WritesPlainly (Text.trim (Integer.text bound)).toList bound := by
  refine ⟨fun relation => ⟨maker relation, relation.lookup_makerName, rfl⟩, fun width n h => ?views,
    fun n hsigned hunsigned hbs hbu relation => ?alike, fun n => ofJson_eq_view,
    fun n m => passes_atLeast_mono hbound, Integer.writesPlainly_of_text rfl⟩
  case alike =>
    rw [check_view_of_fits hbound hsigned hbs, check_view_of_fits hbound hunsigned hbu]
  case views =>
    have hpasses := passes_view_iff hbound h
    have hends := (h.inRange.fits_iff width).1 h
    refine ⟨fun hfits relation => by rw [hpasses, and_iff_right hfits],
      check_view_of_not_fits hbound h, ?equal, ?notEqual, ?atLeast, ?atMost⟩
    case equal =>
      rw [hpasses]
      exact ⟨And.right, fun heq => ⟨heq ▸ h, heq⟩⟩
    case notEqual =>
      rw [hpasses, and_comm]
      exact Iff.rfl
    -- the bound lies on the side of the integer where the view does not end
    case atLeast =>
      rw [hpasses, hrange.fits_iff]
      exact ⟨fun ⟨hfits, hreached⟩ => ⟨hreached, hfits.1⟩, fun ⟨hreached, hsign⟩ =>
        ⟨⟨hsign, fun hsigned => Int.lt_of_le_of_lt hreached (hends.2 hsigned)⟩, hreached⟩⟩
    case atMost =>
      rw [hpasses, hrange.fits_iff]
      exact ⟨fun ⟨hfits, hkept⟩ => ⟨hkept, hfits.2⟩, fun ⟨hkept, hlimit⟩ =>
        ⟨⟨fun hunsigned => Int.le_trans (hends.1 hunsigned) hkept, hlimit⟩, hkept⟩⟩

/-- A negative bound, met with a sign and without one, and a number of a document that loses its
sign. -/
theorem integers_compare_by_value_of_minus_one :
    Passes .atLeast "-1" (.int 0) ∧ ¬ Passes .atLeast "-1" (.uint 0) ∧
      Passes .atMost "-1" (.int (-2)) ∧ ¬ Passes .notEqual "-1" (.uint 0) ∧
      Passes .atLeast "-1" (ofJson (Nat.pow 2 63 - 1 : Nat)) := by
  have hrange : InRange (-1) := ⟨by decide, by decide⟩
  have hbound : WritesPlainly (Text.trim "-1").toList (-1) :=
    Integer.writesPlainly_of_text (by decide)
  obtain ⟨-, hviews, -, -, hmono, -⟩ := integers_compare_by_value hrange hbound
  obtain ⟨-, -, -, -, hzero, -⟩ := hviews .signed 0 ⟨by decide, by decide⟩
  obtain ⟨-, -, -, hdifferent, hunsigned, -⟩ := hviews .unsigned 0 ⟨by decide, by decide⟩
  obtain ⟨-, -, -, -, -, hminus⟩ := hviews .signed (-2) ⟨by decide, by decide⟩
  refine ⟨hzero.2 ⟨by decide, nofun⟩, fun h => ?_, hminus.2 ⟨by decide, fun _ => by decide⟩,
    fun h => ?_, ?_⟩
  · exact absurd ((hunsigned.1 h).2 rfl) (by decide)
  · exact absurd (hdifferent.1 h).2.1 (by decide)
  · exact hmono 0 _ ⟨by decide, by decide⟩ ⟨by decide, by decide⟩ (by decide) (fun _ => by decide)
      (hzero.2 ⟨by decide, nofun⟩)

/-- **A view without the bound is not compared.** Nought is more than minus one and one is less than
`2 ^ 63`, but the check of an unsigned nought refuses the one bound and that of a signed one the
other. So the view decides, and over numbers of a document a larger one fails where a smaller one
passes. -/
theorem checks_refuse_other_views :
    (WritesPlainly (Text.trim "-1").toList (-1) ∧ (0 : Int) ≥ -1 ∧
      Passes .atLeast "-1" (Width.signed.view 0) ∧
      ¬ Passes .atLeast "-1" (Width.unsigned.view 0)) ∧
    (WritesPlainly (Text.trim "9223372036854775808").toList (Nat.pow 2 63) ∧
      (1 : Int) ≤ (Nat.pow 2 63 : Int) ∧
      Passes .atMost "9223372036854775808" (Width.unsigned.view 1) ∧
      ¬ Passes .atMost "9223372036854775808" (Width.signed.view 1)) ∧
    (0 : Int) ≤ (Nat.pow 2 63 : Int) ∧ Passes .atLeast "-1" (ofJson 0) ∧
      ¬ Passes .atLeast "-1" (ofJson (Nat.pow 2 63)) := by
  have hminus : WritesPlainly (Text.trim "-1").toList (-1) :=
    Integer.writesPlainly_of_text (by decide)
  have hlarge : WritesPlainly (Text.trim "9223372036854775808").toList (Nat.pow 2 63) :=
    Integer.writesPlainly_of_text (by decide)
  exact ⟨⟨hminus, by decide, rfl, nofun⟩, ⟨hlarge, by decide, rfl, nofun⟩, by decide, rfl, nofun⟩

end Size

end FieldChecks
