import FieldChecks.Proofs.Text.Digits
import Mathlib.Tactic.ByContra
import Mathlib.Tactic.SplitIfs

/-!
# Bytes — the characters of the same numbers

What looks at the bytes of a text sees characters of its own: a byte
stands for the character of the same number (`byteChar`). In an encoded
text an ASCII character is one such byte, and all bytes of any other
character are beyond ASCII. So the bytes of a text are ASCII if its
characters are (`ascii_of_bytes`), and then they are the characters of the text
(`map_byteChar`).
-/

namespace FieldChecks

/-- The character of the number of a byte. -/
def byteChar (b : UInt8) : Char :=
  Char.ofNat b.toNat

@[simp] theorem toNat_byteChar (b : UInt8) : (byteChar b).toNat = b.toNat := by
  have hlt := b.toNat_lt
  have hvalid : b.toNat.isValidChar := .inl (by omega)
  rw [byteChar, Char.ofNat, dif_pos hvalid]
  rfl

variable {c : Char} {cs : List Char}

theorem utf8EncodeChar_of_ascii (h : c.toNat < 128) :
    String.utf8EncodeChar c = [UInt8.ofNat c.toNat] :=
  if_pos (Nat.le_of_lt_succ h)

theorem byteChar_ofNat (h : c.toNat < 128) : byteChar (UInt8.ofNat c.toNat) = c := by
  rw [← Char.toNat_inj, toNat_byteChar, UInt8.toNat_ofNat_of_lt']
  exact Nat.lt_trans h (by decide)

/-- The first byte of a character beyond ASCII is beyond ASCII. -/
theorem exists_byte_of_not_ascii (h : 128 ≤ c.toNat) :
    ∃ b ∈ String.utf8EncodeChar c, 128 ≤ b.toNat := by
  have hnot : ¬ c.val.toNat ≤ 127 := Nat.not_le.2 h
  rw [String.utf8EncodeChar]
  simp only [hnot, if_false]
  split_ifs
  all_goals
    refine ⟨_, .head _, ?_⟩
    rw [UInt8.toNat_ofNat_of_lt' (by rw [UInt8.size]; omega)]
    omega

/-- A text has at least as many bytes as characters. -/
theorem length_le_utf8ByteSize (text : String) : text.toList.length ≤ text.utf8ByteSize := by
  obtain ⟨cs, rfl⟩ : ∃ cs, text = String.ofList cs := ⟨text.toList, text.ofList_toList.symm⟩
  rw [String.toList_ofList]
  induction cs with
  | nil => simp
  | cons c cs ih =>
    have hc := c.utf8Size_pos
    rw [String.ofList_cons, String.utf8ByteSize_append, String.utf8ByteSize_singleton,
      List.length_cons]
    omega

/-- **ASCII bytes are bytes of ASCII characters.** -/
theorem ascii_of_bytes (h : ∀ b ∈ cs.flatMap String.utf8EncodeChar, b.toNat < 128) :
    ∀ c ∈ cs, c.toNat < 128 := by
  intro c hc
  by_contra hnot
  obtain ⟨b, hb, hge⟩ := exists_byte_of_not_ascii (Nat.not_lt.1 hnot)
  have hlt := h b (List.mem_flatMap.2 ⟨c, hc, hb⟩)
  omega

/-- **The bytes of ASCII characters** are the characters. -/
theorem map_byteChar (h : ∀ c ∈ cs, c.toNat < 128) :
    (cs.flatMap String.utf8EncodeChar).map byteChar = cs := by
  induction cs with
  | nil => rfl
  | cons c cs ih =>
    have hc : c.toNat < 128 := h c (by simp)
    rw [List.flatMap_cons, utf8EncodeChar_of_ascii hc, List.singleton_append, List.map_cons,
      byteChar_ofNat hc, ih fun d hd => h d (by simp [hd])]

end FieldChecks
