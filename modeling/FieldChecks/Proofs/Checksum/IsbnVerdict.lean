import FieldChecks.Checksum.Isbn
import FieldChecks.Proofs.Checksum.Positional
import FieldChecks.Proofs.Result
import FieldChecks.Proofs.Text.Bytes

/-!
# ISBN verdicts — the checks in numbers

The checks go from left to right over bytes and stop at the first that
has no value; of thirteen digits they ask for the last instead of adding
it. Values and weights are ten at most, so no sum leaves the words,
whatever the bytes (`sumOn_eq`), and every machine gives the verdict that
is made in numbers (`check10On_eq`, `check13On_eq`).
-/

namespace FieldChecks.Isbn

/-! ## Values and weights -/

/-- The value of a character: that of a digit, or ten for an `X`. -/
def value? (c : Char) : Option Nat :=
  if c = 'X' ∨ c = 'x' then some 10 else if isAsciiDigit c then some (decimal c) else none

/-- The weights of ten positions, from ten down to one. -/
def weightIn10 (i : Nat) : Nat :=
  10 - i

/-- The weights of thirteen positions, one and three in turn. -/
def weightIn13 (i : Nat) : Nat :=
  if i % 2 = 0 then 1 else 3

/-- The value of a character that is a digit. -/
def digitValue? (c : Char) : Option Nat :=
  if isAsciiDigit c then some (decimal c) else none

/-- The value of a character of a number of ten: only the last one may be an `X`. -/
def valueAt? (i : Nat) (c : Char) : Option Nat :=
  if i = 9 then value? c else digitValue? c

theorem weightIn10_le (i : Nat) : weightIn10 i ≤ 10 :=
  Nat.sub_le 10 i

theorem weightIn13_le (i : Nat) : weightIn13 i ≤ 10 := by
  rw [weightIn13]
  split <;> omega

theorem digitValue?_le {c : Char} {v : Nat} (h : digitValue? c = some v) : v ≤ 10 := by
  rw [digitValue?] at h
  split at h
  · rename_i hdigit
    have hlt := decimal_lt hdigit
    cases h
    omega
  · cases h

theorem value?_of_digit {c : Char} (h : isAsciiDigit c = true) : value? c = some (decimal c) := by
  have hnot : ¬ (c = 'X' ∨ c = 'x') := by rintro (rfl | rfl) <;> cases h
  rw [value?, if_neg hnot, if_pos h]

theorem value?_le {c : Char} {v : Nat} (h : value? c = some v) : v ≤ 10 := by
  rw [value?] at h
  split at h
  · cases h
    exact Nat.le_refl 10
  · exact digitValue?_le h

theorem valueAt?_le {i : Nat} {c : Char} {v : Nat} (h : valueAt? i c = some v) : v ≤ 10 := by
  rw [valueAt?] at h
  split at h
  · exact value?_le h
  · exact digitValue?_le h

/-! ## Sums -/

/-- The weighted sum of the values of bytes, or the first byte that has none. -/
def sumFrom (weight : Nat → Nat) (value? : Nat → Char → Option Nat) :
    (i s : Nat) → List UInt8 → Except UInt8 Nat
  | _, s, [] => .ok s
  | i, s, b :: bs => match value? i (byteChar b) with
    | none => .error b
    | some v => sumFrom weight value? (i + 1) (s + v * weight i) bs

section Sums

variable {weight : Nat → Nat} {value? : Nat → Char → Option Nat} {limit : Nat}

theorem sumFrom_append (i s : Nat) (xs ys : List UInt8) :
    sumFrom weight value? i s (xs ++ ys) =
      sumFrom weight value? i s xs >>= fun t => sumFrom weight value? (i + xs.length) t ys := by
  induction xs generalizing i s with
  | nil => rfl
  | cons x xs ih =>
    rw [List.cons_append, sumFrom, sumFrom]
    cases hv : value? i (byteChar x) with
    | none => rfl
    | some v =>
      simp only [ih, List.length_cons]
      rw [Nat.add_assoc, Nat.add_comm 1]

/-- **Digits have a sum**, and nothing else has where only digits have a value. -/
theorem sumFrom_eq_ok_iff (hvalue : ∀ i < limit, ∀ c, value? i c = digitValue? c)
    {bs : List UInt8} {i s t : Nat} (hlimit : i + bs.length ≤ limit) :
    sumFrom weight value? i s bs = .ok t ↔
      (∀ c ∈ bs.map byteChar, isAsciiDigit c = true) ∧
        t = s + positionalSum (fun i c => decimal c * weight i) i (bs.map byteChar) := by
  induction bs generalizing i s with
  | nil =>
    rw [sumFrom, List.map_nil, positionalSum_nil]
    constructor
    · rintro ⟨⟩
      exact ⟨nofun, rfl⟩
    · rintro ⟨-, rfl⟩
      rfl
  | cons b bs ih =>
    rw [List.length_cons] at hlimit
    rw [sumFrom, hvalue i (by omega), digitValue?, List.map_cons, List.forall_mem_cons,
      positionalSum_cons, ← Nat.add_assoc]
    cases hdigit : isAsciiDigit (byteChar b) with
    | false => simp
    | true => simpa using ih (by omega)

theorem sumFrom_le (hle : ∀ i, weight i ≤ 10) (hten : ∀ {i c v}, value? i c = some v → v ≤ 10)
    {bs : List UInt8} {i s t : Nat} (h : sumFrom weight value? i s bs = .ok t) :
    t ≤ s + 100 * bs.length := by
  induction bs generalizing i s with
  | nil =>
    cases h
    simp
  | cons b bs ih =>
    rw [sumFrom] at h
    cases hv : value? i (byteChar b) with
    | none => simp [hv] at h
    | some v =>
      have hterm : v * weight i ≤ 10 * 10 := Nat.mul_le_mul (hten hv) (hle i)
      have hrest := ih (by simpa [hv] using h)
      rw [List.length_cons]
      omega

end Sums

section Machine

variable {m : Type → Type} [Monad m] [LawfulMonad m] (machine : Machine m)
variable {weight : Nat → Nat} {value? : Nat → Char → Option Nat}
variable {weight' : Nat → m UInt32} {value' : UInt8 → Nat → m (Option UInt32)}

/-- **The loop makes the sum in numbers**: weights and values are ten at most, so no sum of so few
bytes leaves the words. -/
theorem sumOn_eq (limit : Nat) (hweight : ∀ i < limit, weight' i = pure (.ofNat (weight i)))
    (hle : ∀ i, weight i ≤ 10)
    (hvalue : ∀ b i, value' b i = pure ((value? i (byteChar b)).map .ofNat))
    (hten : ∀ {i c v}, value? i c = some v → v ≤ 10) {bs : List UInt8} {i s : Nat}
    (hlimit : i + bs.length ≤ limit) (hs : s + 100 * bs.length < UInt32.size) :
    sumOn machine weight' value' i (.ofNat s) bs =
      pure ((sumFrom weight value? i s bs).map .ofNat) := by
  induction bs generalizing i s with
  | nil => rfl
  | cons b bs ih =>
    rw [List.length_cons] at hlimit hs
    rw [sumOn, sumFrom, hweight i (by omega), pure_bind, hvalue, pure_bind]
    cases hv : value? i (byteChar b) with
    | none => rfl
    | some v =>
      have hsize : UInt32.size = 4294967296 := rfl
      have hvle : v ≤ 10 := hten hv
      have hterm : v * weight i ≤ 10 * 10 := Nat.mul_le_mul hvle (hle i)
      have hi : weight i ≤ 10 := hle i
      simp only [Option.map_some]
      rw [machine.mul_ofNat (by omega) (by omega) (by omega), pure_bind,
        machine.add_ofNat (by omega), pure_bind]
      exact ih (by omega) (by omega)

/-! ## Bytes -/

theorem isDigitByte_eq (b : UInt8) : (0x30 ≤ b && b ≤ 0x39) = isAsciiDigit (byteChar b) := by
  rw [Bool.eq_iff_iff, isAsciiDigit_iff, toNat_byteChar, Bool.and_eq_true, decide_eq_true_eq,
    decide_eq_true_eq, UInt8.le_iff_toNat_le, UInt8.le_iff_toNat_le]
  exact Iff.rfl

theorem digitByte?_eq (b : UInt8) :
    digitByte? machine b = pure ((digitValue? (byteChar b)).map .ofNat) := by
  rw [digitByte?, isDigitByte_eq, digitValue?]
  cases h : isAsciiDigit (byteChar b) with
  | false => rfl
  | true =>
    have hle : (0x30 : UInt8) ≤ b := by
      obtain ⟨hle, -⟩ := isAsciiDigit_iff.1 h
      rw [toNat_byteChar] at hle
      exact UInt8.le_iff_toNat_le.2 hle
    have hvalue : (b - 0x30).toUInt32 = .ofNat (decimal (byteChar b)) := by
      have hlt := decimal_lt h
      have hsize : UInt32.size = 4294967296 := rfl
      rw [← UInt32.toNat_inj, UInt8.toNat_toUInt32, UInt8.toNat_sub_of_le _ _ hle,
        UInt32.toNat_ofNat_of_lt' (by omega), decimal, toNat_byteChar]
      rfl
    simp only [if_true, Option.map_some]
    rw [machine.subByte_eq _ _ hle, pure_bind, hvalue]

theorem value10?_eq (b : UInt8) (i : Nat) :
    value10? machine b i = pure ((valueAt? i (byteChar b)).map .ofNat) := by
  have hX : (b == 0x58 || b == 0x78) = decide (byteChar b = 'X' ∨ byteChar b = 'x') := by
    rw [Bool.eq_iff_iff, Bool.or_eq_true, beq_iff_eq, beq_iff_eq, decide_eq_true_eq,
      ← UInt8.toNat_inj, ← UInt8.toNat_inj, ← Char.toNat_inj, ← Char.toNat_inj, toNat_byteChar]
    exact Iff.rfl
  rw [value10?, hX, digitByte?_eq, valueAt?, value?, ← digitValue?]
  by_cases hi : i = 9
  · by_cases hx : byteChar b = 'X' ∨ byteChar b = 'x'
    · simp only [hi, hx]
      rfl
    · simp [hi, hx]
  · simp [hi]

omit [LawfulMonad m] in
theorem weight10_eq {i : Nat} (hi : i < 10) : weight10 machine i = pure (.ofNat (10 - i)) :=
  machine.sub_ofNat (a := 10) (by omega) (by decide)

theorem weight13_eq (i : Nat) : weight13 i = .ofNat (weightIn13 i) := by
  rcases Nat.mod_two_eq_zero_or_one i with hi | hi
  · simp [weight13, weightIn13, hi]
  · simp [weight13, weightIn13, hi]

/-! ## Verdicts -/

/-- The judgement of a sum, or of the first byte that has no value. -/
def judgement (length text : String) (fits : Nat → Prop) [DecidablePred fits]
    (found : Except UInt8 Nat) : Except CheckError Unit :=
  match found with
  | .error b => .error (badByte length b)
  | .ok t => if fits t then .ok () else .error (wrong length text)

/-- The verdict on a number of ten characters, in numbers. -/
def verdict10 (text : String) : Except CheckError Unit :=
  if (bytes text).length = 10 then
    judgement "10" text (fun t => t % 11 = 0) (sumFrom weightIn10 valueAt? 0 0 (bytes text))
  else .error (wrong "10" text)

/-- The verdict on a number of thirteen digits, in numbers. -/
def verdict13 (text : String) : Except CheckError Unit :=
  if (bytes text).length = 13 then
    judgement "13" text
      (fun t => (bytes text)[12]?.bind (digitValue? ∘ byteChar) = some ((10 - t % 10) % 10))
      (sumFrom weightIn13 (fun _ => digitValue?) 0 0 ((bytes text).take 12))
  else .error (wrong "13" text)

/-- What is found in one way only is judged by it. -/
theorem judgement_eq_ok_iff {length text : String} {fits : Nat → Prop} [DecidablePred fits]
    {found : Except UInt8 Nat} {form : Prop} {sum : Nat}
    (h : ∀ t, found = .ok t ↔ form ∧ t = sum) :
    judgement length text fits found = .ok () ↔ form ∧ fits sum := by
  cases found with
  | error b =>
    simp only [judgement, reduceCtorEq, false_iff]
    rintro ⟨hform, -⟩
    cases (h sum).2 ⟨hform, rfl⟩
  | ok t =>
    obtain ⟨hform, rfl⟩ := (h t).1 rfl
    rw [judgement, ite_ok_iff, and_iff_right hform]

/-- **Ten characters are judged in numbers** on every machine. -/
theorem check10On_eq (text : String) : check10On machine text = pure (verdict10 text) := by
  rw [check10On, verdict10]
  by_cases hlength : (bytes text).length = 10
  · have hsum : sumOn machine (weight10 machine) (value10? machine) 0 0 (bytes text) =
        pure ((sumFrom weightIn10 valueAt? 0 0 (bytes text)).map .ofNat) :=
      sumOn_eq machine 10 (fun i hi => weight10_eq machine hi) weightIn10_le
        (value10?_eq machine) valueAt?_le (by omega) (by rw [hlength]; decide)
    simp only [hlength, bne_self_eq_false, Bool.false_eq_true, if_false, if_true, hsum, pure_bind]
    cases h : sumFrom weightIn10 valueAt? 0 0 (bytes text) with
    | error b => rfl
    | ok t =>
      have ht : t < UInt32.size := by
        have hle := sumFrom_le weightIn10_le valueAt?_le h
        have hsize : UInt32.size = 4294967296 := rfl
        omega
      have hmod : (UInt32.ofNat t % 11 == 0) = decide (t % 11 = 0) :=
        mod_ofNat_beq_zero ht (by decide : 11 < UInt32.size)
      simp [judgement, Except.map, hmod]
  · simp [hlength]

/-- **Thirteen digits are judged in numbers** on every machine. -/
theorem check13On_eq (text : String) : check13On machine text = pure (verdict13 text) := by
  rw [check13On, verdict13]
  by_cases hlength : (bytes text).length = 13
  · have hlt : 12 < (bytes text).length := by omega
    have htake : ((bytes text).take 12).length = 12 := by rw [List.length_take]; omega
    have hsum : sumOn machine (fun i => pure (weight13 i)) (fun b _ => digitByte? machine b) 0 0
          ((bytes text).take 12) =
        pure ((sumFrom weightIn13 (fun _ => digitValue?) 0 0 ((bytes text).take 12)).map .ofNat) :=
      sumOn_eq machine 12 (fun i _ => by rw [weight13_eq]) weightIn13_le
        (fun b _ => digitByte?_eq machine b) digitValue?_le (by omega) (by rw [htake]; decide)
    simp only [hlength, bne_self_eq_false, Bool.false_eq_true, if_false, if_true,
      machine.firstBytes_eq _ _ (Nat.le_of_lt hlt), pure_bind, hsum]
    cases h : sumFrom weightIn13 (fun _ => digitValue?) 0 0 ((bytes text).take 12) with
    | error b => rfl
    | ok t =>
      have hmissing : machine.sub 10 (.ofNat t % 10) = pure (.ofNat (10 - t % 10)) := by
        have ht : t < UInt32.size := by
          have hle := sumFrom_le weightIn13_le digitValue?_le h
          have hsize : UInt32.size = 4294967296 := rfl
          omega
        have hmod : UInt32.ofNat t % 10 = .ofNat (t % 10) :=
          (UInt32.ofNat_mod ht (by decide : 10 < 2 ^ 32)).symm
        rw [hmod]
        exact machine.sub_ofNat (a := 10) (by omega) (by decide)
      simp only [judgement, Except.map, hmissing, machine.byteAt_eq _ _ hlt, digitByte?_eq, pure_bind,
        List.getElem?_eq_getElem hlt, Option.bind_some, Function.comp_apply]
      have hten : UInt32.ofNat (10 - t % 10) % 10 = .ofNat ((10 - t % 10) % 10) :=
        (UInt32.ofNat_mod (by omega) (by decide : 10 < 2 ^ 32)).symm
      rw [hten]
      -- the last digit is compared as a word, and words of small numbers are told apart
      cases hlast : digitValue? (byteChar (bytes text)[12]) with
      | none => rfl
      | some v =>
        have hsize : UInt32.size = 4294967296 := rfl
        have hle := digitValue?_le hlast
        have hsame : UInt32.ofNat v = .ofNat ((10 - t % 10) % 10) ↔ v = (10 - t % 10) % 10 :=
          ofNat_inj_of_lt (by omega) (by omega)
        simp [hsame]
  · simp [hlength]

end Machine

end FieldChecks.Isbn
