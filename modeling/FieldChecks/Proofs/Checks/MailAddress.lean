import FieldChecks.Checks.Format
import FieldChecks.Proofs.Text.Blank
import FieldChecks.Proofs.Text.Slice
import Mathlib.Data.List.Basic

/-!
# Mail addresses — where they are cut out of a text

A text that ends with a closing angle bracket holds its address behind the
last opening one, and any other text is an address as a whole, but for the
blanks around it (`AddressIn`). The brackets are found as offsets in
bytes. A bracket is one byte, so the offset behind the first one and the
offset in front of the last one both tell places, the first not behind
the second; so the cut is always possible (`mailAddress?_eq`).
-/

namespace FieldChecks.Format

/-- **The address in a text**: the part between the last opening bracket and the closing one at the
end, or the text without the blanks around it if it has no such brackets. -/
inductive AddressIn : (text address : List Char) → Prop
  | bracketed {name address : List Char} (hnone : '<' ∉ address) :
    AddressIn (name ++ '<' :: (address ++ ['>'])) address
  | plain {text address : List Char} (h : text.getLast? ≠ some '>' ∨ '<' ∉ text)
    (htrims : Chars.Trims text address) : AddressIn text address

variable {text : String} {address : List Char}

theorem getLast?_bracketed {name : List Char} {first last : Char} :
    (name ++ first :: (address ++ [last])).getLast? = some last := by
  rw [← List.cons_append, ← List.append_assoc, List.getLast?_concat]

theorem exists_addressIn (text : List Char) : ∃ address, AddressIn text address := by
  by_cases hend : text.getLast? = some '>'
  · cases hopen : Chars.lastOffset? '<' text with
    | none =>
      have hnone := Chars.lastOffset?_eq_none_iff.1 hopen
      exact ⟨_, .plain (.inr hnone) (Chars.trim_eq_iff.1 rfl)⟩
    | some offset =>
      obtain ⟨name, back, rfl, hnone, -⟩ := Chars.lastOffset?_eq_some_iff.1 hopen
      -- the text does not end with the opening bracket, so there is something behind it
      rcases List.eq_nil_or_concat' back with rfl | ⟨address, last, rfl⟩
      · simp at hend
      · rw [getLast?_bracketed] at hend
        obtain rfl := Option.some.inj hend
        exact ⟨address, .bracketed fun hmem => hnone (List.mem_append_left _ hmem)⟩
  · exact ⟨_, .plain (.inl hend) (Chars.trim_eq_iff.1 rfl)⟩

theorem afterLast?_eq_none {c : Char} {cs : List Char} (hnone : c ∉ cs) :
    afterLast? c cs = none := by
  induction cs with
  | nil => rfl
  | cons d cs ih =>
    obtain ⟨hd, hnone⟩ := List.ne_and_not_mem_of_not_mem_cons hnone
    simp [afterLast?, ih hnone, hd.symm]

theorem afterLast?_append {c : Char} {front back : List Char} (hnone : c ∉ back) :
    afterLast? c (front ++ c :: back) = some back := by
  induction front with
  | nil => simp [afterLast?, afterLast?_eq_none hnone]
  | cons d front ih => rw [List.cons_append, afterLast?, ih]

theorem AddressIn.mailAddress_eq (h : AddressIn text.toList address) :
    mailAddress text = String.ofList address := by
  rw [mailAddress]
  generalize htext : text.toList = cs at h
  cases h with
  | bracketed hnone =>
    rw [getLast?_bracketed, afterLast?_append (by simpa using hnone)]
    simp
  | plain h htrims =>
    have hplain : (if cs.getLast? == some '>' then afterLast? '<' cs else none) = none := by
      rcases h with h | h
      · simp [h]
      · simp [afterLast?_eq_none h]
    simp only [hplain, Text.trim, htext, Chars.trim_eq_iff.2 htrims]

theorem AddressIn.mailAddress?_eq (h : AddressIn text.toList address) :
    mailAddress? text = some (String.ofList address) := by
  rw [mailAddress?, Chars.utf8ByteSize_eq_byteCount, Text.trim]
  generalize text.toList = cs at h
  cases h with
  | @bracketed name _ hnone =>
    have hopen : Chars.lastOffset? '<' (name ++ '<' :: (address ++ ['>'])) =
        some (Chars.byteCount name) :=
      Chars.lastOffset?_eq_some_iff.2 ⟨name, _, rfl, by simpa using hnone, rfl⟩
    have hbracket : '<'.utf8Size = 1 ∧ '>'.utf8Size = 1 := by decide
    have hslice : Chars.slice? (Chars.byteCount name + 1)
        (Chars.byteCount (name ++ '<' :: (address ++ ['>'])) - 1)
        (name ++ '<' :: (address ++ ['>'])) = some address := by
      refine Chars.slice?_eq_some_iff.2 ⟨name ++ ['<'], ['>'], by simp, ?_, ?_⟩
      · simp [hbracket]
      · simp [hbracket]
        omega
    rw [hopen, getLast?_bracketed]
    simp only [hslice, beq_self_eq_true, Option.map_some]
  | plain h htrims =>
    rw [Chars.trim_eq_iff.2 htrims]
    rcases h with h | h
    · cases Chars.lastOffset? '<' cs <;> simp [h]
    · rw [Chars.lastOffset?_eq_none_iff.2 h]

/-- **An address can be cut out of every text.** -/
theorem mailAddress?_eq (text : String) : mailAddress? text = some (mailAddress text) := by
  obtain ⟨address, h⟩ := exists_addressIn text.toList
  rw [h.mailAddress?_eq, h.mailAddress_eq]

/-- Every text has one address in it. -/
theorem addressIn_iff : AddressIn text.toList address ↔ address = (mailAddress text).toList := by
  constructor
  · intro h
    rw [h.mailAddress_eq, String.toList_ofList]
  · rintro rfl
    obtain ⟨address, h⟩ := exists_addressIn text.toList
    rwa [h.mailAddress_eq, String.toList_ofList]

/-- The check is about the address in the text of a value. -/
theorem email_eq_ok_iff {value : Value} :
    email value = .ok () ↔
      ∃ text, value.text = .ok text ∧ isMailAddress (mailAddress text) = true := by
  simp only [email, textCheck_eq_ok_iff, mailAddress?_eq, Option.any_some]

end FieldChecks.Format
