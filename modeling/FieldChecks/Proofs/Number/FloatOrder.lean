import FieldChecks.Number.Binary64
import Mathlib.Order.Compare
import Mathlib.Order.Monotone.Basic

/-!
# Binary floating-point numbers — the order of their values

Numbers are compared through a key that is read off their bits. In units
of the least positive number every finite number is an integer (`units`),
and an infinity takes the place of the power of two behind the largest
one. From one magnitude to the next the units grow
(`unitsOfMagnitude_lt_succ`), so the key orders the numbers as their
values do, the two zeros being one (`compare?_eq`). NaNs have no value, and
compare with nothing (`compare?_eq_none_iff`).
-/

namespace FieldChecks.Binary64

variable {x y : Binary64}

/-- The numbers of a magnitude without their sign, in units of the least positive one. -/
def unitsOfMagnitude (magnitude : Nat) : Nat :=
  match magnitude / Nat.pow 2 52 with
  | 0 => magnitude % Nat.pow 2 52
  | exponent + 1 => (magnitude % Nat.pow 2 52 + Nat.pow 2 52) * Nat.pow 2 exponent

/-- **A number in units of the least positive one**, which is `2 ^ (-1074)`. An infinity counts as
the power of two behind the largest number. -/
def units (x : Binary64) : Int :=
  let size := x.decode.1 * Nat.pow 2 (x.decode.2 + 1074).toNat
  if x.isNegative then -(size : Int) else size

theorem decode_eq (x : Binary64) :
    x.decode.1 * Nat.pow 2 (x.decode.2 + 1074).toNat = unitsOfMagnitude x.magnitude := by
  rw [decode, unitsOfMagnitude]
  cases x.magnitude / Nat.pow 2 52 with
  | zero => exact Nat.mul_one _
  | succ exponent =>
    have hexponent : (Int.ofNat exponent - 1074 + 1074).toNat = exponent := by simp
    exact congrArg (_ * Nat.pow 2 ·) hexponent

theorem units_eq (x : Binary64) :
    x.units = if x.isNegative then -(unitsOfMagnitude x.magnitude : Int)
      else unitsOfMagnitude x.magnitude := by
  rw [units, decode_eq]

/-- Between two magnitudes of one exponent the significand grows; behind the last of them the
significand falls back and the exponent grows. -/
theorem unitsOfMagnitude_lt_succ (magnitude : Nat) :
    unitsOfMagnitude magnitude < unitsOfMagnitude (magnitude + 1) := by
  have hfraction : magnitude % 2 ^ 52 < 2 ^ 52 := Nat.mod_lt _ (by decide)
  have hpow : ∀ exponent, Nat.pow 2 exponent = 2 ^ exponent := fun _ => rfl
  simp only [unitsOfMagnitude, hpow]
  by_cases hlast : magnitude % 2 ^ 52 + 1 = 2 ^ 52
  · have hexponent : (magnitude + 1) / 2 ^ 52 = magnitude / 2 ^ 52 + 1 := by omega
    have hfirst : (magnitude + 1) % 2 ^ 52 = 0 := by omega
    rw [hexponent, hfirst]
    cases magnitude / 2 ^ 52 with
    | zero => simpa using hfraction
    | succ exponent =>
      have hpos : 0 < 2 ^ exponent := Nat.two_pow_pos exponent
      calc (magnitude % 2 ^ 52 + 2 ^ 52) * 2 ^ exponent
          < 2 ^ 53 * 2 ^ exponent := Nat.mul_lt_mul_of_pos_right (by omega) hpos
        _ = (0 + 2 ^ 52) * 2 ^ (exponent + 1) := by rw [Nat.pow_succ 2 exponent]; omega
  · have hexponent : (magnitude + 1) / 2 ^ 52 = magnitude / 2 ^ 52 := by omega
    have hnext : (magnitude + 1) % 2 ^ 52 = magnitude % 2 ^ 52 + 1 := by omega
    rw [hexponent, hnext]
    cases magnitude / 2 ^ 52 with
    | zero => exact Nat.lt_succ_self _
    | succ exponent => exact Nat.mul_lt_mul_of_pos_right (by omega) (Nat.two_pow_pos exponent)

theorem strictMono_unitsOfMagnitude : StrictMono unitsOfMagnitude :=
  strictMono_nat_of_lt_succ unitsOfMagnitude_lt_succ

/-- The key of a number that is no NaN. -/
theorem orderKey?_eq (h : x.isNaN = false) :
    x.orderKey? = some (if x.isNegative then -(x.magnitude : Int) else x.magnitude) := by
  rw [orderKey?, h]
  cases x.isNegative <;> rfl

/-- A measure that grows with the magnitude from nought on orders numbers with a sign as their
magnitudes do. -/
theorem signed_lt_iff {f : Nat → Nat} (hf : StrictMono f) (hzero : f 0 = 0) (s t : Bool)
    (m n : Nat) :
    ((if s then -(f m : Int) else f m) < if t then -(f n : Int) else f n) ↔
      (if s then -(m : Int) else m) < if t then -(n : Int) else n := by
  have hm : f m = 0 ↔ m = 0 := by simpa [hzero] using hf.injective.eq_iff (b := 0)
  have hn : f n = 0 ↔ n = 0 := by simpa [hzero] using hf.injective.eq_iff (b := 0)
  have hlt : f m < f n ↔ m < n := hf.lt_iff_lt
  have hgt : f n < f m ↔ n < m := hf.lt_iff_lt
  cases s <;> cases t <;> simp only [Bool.false_eq_true, if_true, if_false] <;> omega

theorem compare_congr {a b c d : Int} (hlt : a < b ↔ c < d) (hgt : b < a ↔ d < c) :
    compare a b = compare c d := by
  rcases Int.lt_trichotomy a b with h | rfl | h
  · rw [compare_lt_iff_lt.2 h, compare_lt_iff_lt.2 (hlt.1 h)]
  · have heq : c = d := by omega
    rw [heq, compare_eq_iff_eq.2 rfl, compare_eq_iff_eq.2 rfl]
  · rw [compare_gt_iff_gt.2 h, compare_gt_iff_gt.2 (hgt.1 h)]

/-- **Numbers compare by their values.** -/
theorem compare?_eq (hx : x.isNaN = false) (hy : y.isNaN = false) :
    x.compare? y = some (compare x.units y.units) := by
  have hlt := signed_lt_iff strictMono_unitsOfMagnitude rfl
  rw [compare?, orderKey?_eq hx, orderKey?_eq hy, units_eq, units_eq]
  exact congrArg some (compare_congr (hlt ..).symm (hlt ..).symm)

/-- **Only a NaN compares with nothing.** -/
theorem compare?_eq_none_iff : x.compare? y = none ↔ x.isNaN = true ∨ y.isNaN = true := by
  cases hx : x.isNaN with
  | true => simp [compare?, orderKey?, hx]
  | false =>
    cases hy : y.isNaN with
    | true => simp [compare?, orderKey?, hy]
    | false => simp [compare?_eq hx hy]

end FieldChecks.Binary64
