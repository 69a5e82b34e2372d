import FieldChecks.Text.Slice
import Mathlib.Tactic.SplitIfs

/-!
# Slices — places in bytes and places between characters

An offset in bytes tells a place if it is the number of bytes of the
characters in front (`splitAtByte?_eq_some_iff`). So there is a slice
between two offsets exactly if a text falls into three parts with these
offsets between them (`slice?_eq_some_iff`).
-/

namespace FieldChecks.Chars

/-- The number of bytes that characters take. -/
def byteCount : List Char → Nat
  | [] => 0
  | c :: cs => c.utf8Size + byteCount cs

variable {c : Char} {cs front back part : List Char} {offset start stop : Nat}

@[simp] theorem byteCount_nil : byteCount [] = 0 := rfl

@[simp] theorem byteCount_cons : byteCount (c :: cs) = c.utf8Size + byteCount cs := rfl

@[simp] theorem byteCount_append : byteCount (front ++ back) = byteCount front + byteCount back := by
  induction front with
  | nil => simp
  | cons c front ih => rw [List.cons_append, byteCount_cons, byteCount_cons, ih, Nat.add_assoc]

theorem byteCount_eq_zero_iff : byteCount cs = 0 ↔ cs = [] := by
  cases cs with
  | nil => simp
  | cons c cs =>
    have hc := c.utf8Size_pos
    simp only [byteCount_cons, reduceCtorEq, iff_false]
    omega

theorem utf8ByteSize_eq_byteCount (text : String) : text.utf8ByteSize = byteCount text.toList := by
  obtain ⟨cs, rfl⟩ : ∃ cs, text = String.ofList cs := ⟨text.toList, text.ofList_toList.symm⟩
  rw [String.toList_ofList]
  induction cs with
  | nil => simp
  | cons c cs ih =>
    rw [String.ofList_cons, String.utf8ByteSize_append, String.utf8ByteSize_singleton, ih,
      byteCount_cons]

/-- **An offset tells a place** behind characters of as many bytes. -/
theorem splitAtByte?_eq_some_iff :
    splitAtByte? offset cs = some (front, back) ↔ cs = front ++ back ∧ byteCount front = offset := by
  induction cs generalizing offset front back with
  | nil =>
    rw [eq_comm (a := []), List.append_eq_nil_iff]
    cases offset with
    | zero =>
      rw [splitAtByte?, Option.some.injEq, Prod.mk.injEq, byteCount_eq_zero_iff]
      exact ⟨fun h => ⟨⟨h.1.symm, h.2.symm⟩, h.1.symm⟩, fun h => ⟨h.1.1.symm, h.1.2.symm⟩⟩
    | succ offset =>
      simp only [splitAtByte?, reduceCtorEq, false_iff]
      rintro ⟨⟨rfl, -⟩, hcount⟩
      simp at hcount
  | cons c cs ih =>
    have hc := c.utf8Size_pos
    cases offset with
    | zero =>
      rw [splitAtByte?, byteCount_eq_zero_iff, Option.some.injEq, Prod.mk.injEq]
      constructor
      · rintro ⟨rfl, rfl⟩
        exact ⟨rfl, rfl⟩
      · rintro ⟨heq, rfl⟩
        exact ⟨rfl, heq⟩
    | succ offset =>
      rw [splitAtByte?]
      split_ifs with hfits
      · simp only [Option.map_eq_some_iff, Prod.exists, ih, Prod.mk.injEq]
        constructor
        · rintro ⟨rest, _, ⟨rfl, hcount⟩, rfl, rfl⟩
          exact ⟨rfl, by rw [byteCount_cons, hcount, Nat.add_sub_cancel' hfits]⟩
        · rintro ⟨heq, hcount⟩
          obtain ⟨rfl, -⟩ | ⟨rest, rfl, rfl⟩ := List.cons_eq_append_iff.1 heq
          · simp at hcount
          · rw [byteCount_cons] at hcount
            exact ⟨rest, back, ⟨rfl, by omega⟩, rfl, rfl⟩
      · simp only [false_iff]
        rintro ⟨heq, hcount⟩
        obtain ⟨rfl, -⟩ | ⟨rest, rfl, rfl⟩ := List.cons_eq_append_iff.1 heq
        · simp at hcount
        · rw [byteCount_cons] at hcount
          omega

/-- **A slice is the middle of three parts** with the two offsets between them. -/
theorem slice?_eq_some_iff :
    slice? start stop cs = some part ↔ ∃ before after, cs = before ++ part ++ after ∧
      byteCount before = start ∧ byteCount (before ++ part) = stop := by
  simp only [slice?, bind, Option.bind_eq_some_iff, Prod.exists, pure, Option.some.injEq,
    splitAtByte?_eq_some_iff]
  constructor
  · rintro ⟨front, after, ⟨rfl, hstop⟩, before, _, ⟨rfl, hstart⟩, rfl⟩
    exact ⟨before, after, rfl, hstart, hstop⟩
  · rintro ⟨before, after, rfl, hstart, hstop⟩
    exact ⟨before ++ part, after, ⟨rfl, hstop⟩, before, part, ⟨rfl, hstart⟩, rfl⟩

theorem lastOffset?_eq_none_iff : lastOffset? c cs = none ↔ c ∉ cs := by
  induction cs with
  | nil => simp [lastOffset?]
  | cons d cs ih =>
    rw [lastOffset?, List.mem_cons, not_or, ← ih]
    cases lastOffset? c cs with
    | some offset => simp
    | none => by_cases hd : d = c <;> simp [hd, Ne.symm]

/-- The last occurrence of a character is the one with none behind it. -/
theorem lastOffset?_eq_some_iff :
    lastOffset? c cs = some offset ↔
      ∃ front back, cs = front ++ c :: back ∧ c ∉ back ∧ byteCount front = offset := by
  constructor
  · intro h
    induction cs generalizing offset with
    | nil => cases h
    | cons d cs ih =>
      rw [lastOffset?] at h
      cases hlast : lastOffset? c cs with
      | some later =>
        obtain ⟨front, back, rfl, hnone, rfl⟩ := ih hlast
        rw [hlast] at h
        exact ⟨d :: front, back, rfl, hnone, by simpa using h⟩
      | none =>
        rw [hlast] at h
        obtain ⟨hd, rfl⟩ : d = c ∧ 0 = offset := by simpa using h
        exact ⟨[], cs, by rw [hd, List.nil_append], lastOffset?_eq_none_iff.1 hlast, rfl⟩
  · rintro ⟨front, back, rfl, hnone, rfl⟩
    induction front with
    | nil => simp [lastOffset?, lastOffset?_eq_none_iff.2 hnone]
    | cons d front ih => rw [List.cons_append, lastOffset?, ih, byteCount_cons]

end FieldChecks.Chars
