/-!
# Arithmetic on machine words

Checksums are summed up in words of 32 bits, over bytes that are taken by
their positions. What becomes of a result that is no word, or of a
position behind the last byte, is left to the build: it may stop there or
go on. A machine is one such way to calculate. All of them are exact where
the numbers fit, so a computation that stays within bounds gives the same
on every machine, and one machine tells whether it does by stopping where
it does not (`Machine.checked`).
-/

namespace FieldChecks

/-- A way to calculate with words and bytes, exact where there is an exact result. -/
structure Machine (m : Type → Type) [Monad m] where
  add : UInt32 → UInt32 → m UInt32
  sub : UInt32 → UInt32 → m UInt32
  mul : UInt32 → UInt32 → m UInt32
  subByte : UInt8 → UInt8 → m UInt8
  /-- The byte at a position. -/
  byteAt : List UInt8 → Nat → m UInt8
  /-- The first bytes, so many of them. -/
  firstBytes : List UInt8 → Nat → m (List UInt8)
  add_eq : ∀ a b, a.toNat + b.toNat < UInt32.size → add a b = pure (a + b)
  sub_eq : ∀ a b, b ≤ a → sub a b = pure (a - b)
  mul_eq : ∀ a b, a.toNat * b.toNat < UInt32.size → mul a b = pure (a * b)
  subByte_eq : ∀ a b, b ≤ a → subByte a b = pure (a - b)
  byteAt_eq : ∀ bytes i, (h : i < bytes.length) → byteAt bytes i = pure bytes[i]
  firstBytes_eq : ∀ bytes n, n ≤ bytes.length → firstBytes bytes n = pure (bytes.take n)

namespace Machine

/-- The machine that goes on: results are taken modulo the number of words, and behind the last
byte there are zeros. -/
def wrapping : Machine Id where
  add a b := pure (a + b)
  sub a b := pure (a - b)
  mul a b := pure (a * b)
  subByte a b := pure (a - b)
  byteAt bytes i := pure (bytes.getD i 0)
  firstBytes bytes n := pure (bytes.take n)
  add_eq _ _ _ := rfl
  sub_eq _ _ _ := rfl
  mul_eq _ _ _ := rfl
  subByte_eq _ _ _ := rfl
  byteAt_eq bytes i h := by simp [h]
  firstBytes_eq _ _ _ := rfl

/-- The machine that stops: there is no result where it would not be exact. -/
def checked : Machine Option where
  add a b := if a.toNat + b.toNat < UInt32.size then some (a + b) else none
  sub a b := if b ≤ a then some (a - b) else none
  mul a b := if a.toNat * b.toNat < UInt32.size then some (a * b) else none
  subByte a b := if b ≤ a then some (a - b) else none
  byteAt bytes i := bytes[i]?
  firstBytes bytes n := if n ≤ bytes.length then some (bytes.take n) else none
  add_eq _ _ h := if_pos h
  sub_eq _ _ h := if_pos h
  mul_eq _ _ h := if_pos h
  subByte_eq _ _ h := if_pos h
  byteAt_eq _ _ h := List.getElem?_eq_getElem h
  firstBytes_eq _ _ h := if_pos h

/-! ## Words of numbers -/

variable {m : Type → Type} [Monad m] (machine : Machine m) {a b : Nat}

theorem add_ofNat (h : a + b < UInt32.size) :
    machine.add (.ofNat a) (.ofNat b) = pure (.ofNat (a + b)) := by
  rw [UInt32.ofNat_add]
  apply machine.add_eq
  rwa [UInt32.toNat_ofNat_of_lt' (by omega), UInt32.toNat_ofNat_of_lt' (by omega)]

theorem sub_ofNat (hb : b ≤ a) (h : a < UInt32.size) :
    machine.sub (.ofNat a) (.ofNat b) = pure (.ofNat (a - b)) := by
  rw [UInt32.ofNat_sub hb]
  apply machine.sub_eq
  rwa [UInt32.le_iff_toNat_le, UInt32.toNat_ofNat_of_lt' (by omega), UInt32.toNat_ofNat_of_lt' h]

theorem mul_ofNat (ha : a < UInt32.size) (hb : b < UInt32.size) (h : a * b < UInt32.size) :
    machine.mul (.ofNat a) (.ofNat b) = pure (.ofNat (a * b)) := by
  rw [UInt32.ofNat_mul]
  apply machine.mul_eq
  rwa [UInt32.toNat_ofNat_of_lt' ha, UInt32.toNat_ofNat_of_lt' hb]

end Machine

/-- Words of small numbers are told apart as the numbers are. -/
theorem ofNat_inj_of_lt {a b : Nat} (ha : a < UInt32.size) (hb : b < UInt32.size) :
    UInt32.ofNat a = .ofNat b ↔ a = b := by
  refine ⟨fun h => ?_, congrArg UInt32.ofNat⟩
  have hnat := congrArg UInt32.toNat h
  rwa [UInt32.toNat_ofNat_of_lt' ha, UInt32.toNat_ofNat_of_lt' hb] at hnat

/-- Whether the word of a number is a multiple is a question about the number. -/
theorem mod_ofNat_beq_zero {n k : Nat} (hn : n < UInt32.size) (hk : k < UInt32.size) :
    (UInt32.ofNat n % .ofNat k == 0) = decide (n % k = 0) := by
  have hlt : n % k < UInt32.size := Nat.lt_of_le_of_lt (Nat.mod_le n k) hn
  have hinj : UInt32.ofNat (n % k) = .ofNat 0 ↔ n % k = 0 := ofNat_inj_of_lt hlt (by decide)
  rw [← UInt32.ofNat_mod hn hk, Bool.eq_iff_iff, beq_iff_eq, decide_eq_true_eq]
  exact hinj

end FieldChecks
