import FieldChecks.Proofs.Checksum.IsbnVerdict

/-!
# ISBN sums — two forms of numbers

A number of ten characters ends in a digit or an `X` for ten, and its
weighted sum is a multiple of eleven (`Valid10`); one of thirteen digits
has a sum that is a multiple of ten (`Valid13`). What passes are exactly the
texts whose bytes have these forms (`check10_eq_ok_iff`,
`check13_eq_ok_iff`), in which the last digit is the one that the others
ask for. Dashes are taken off before the length tells which form it is.
-/

namespace FieldChecks.Isbn

/-! ## The two forms -/

/-- What a character counts in a number of ten, by its position. -/
def share10 (i : Nat) (c : Char) : Nat :=
  (value? c).getD 0 * weightIn10 i

/-- What a digit counts in a number of thirteen, by its position. -/
def share13 (i : Nat) (c : Char) : Nat :=
  decimal c * weightIn13 i

/-- **A number of ten characters**: nine digits and a digit or an `X`, weighted from ten down to
one to a multiple of eleven. -/
structure Valid10 (cs : List Char) : Prop where
  length_eq : cs.length = 10
  digits : ∀ c ∈ cs.take 9, isAsciiDigit c = true
  last : ∀ c ∈ cs.drop 9, (value? c).isSome
  sum : 11 ∣ positionalSum share10 0 cs

/-- **A number of thirteen digits**, weighted by one and three in turn to a multiple of ten. -/
structure Valid13 (cs : List Char) : Prop where
  length_eq : cs.length = 13
  digits : ∀ c ∈ cs, isAsciiDigit c = true
  sum : 10 ∣ positionalSum share13 0 cs

/-- The characters that the bytes of a text are read as. -/
def readChars (text : String) : List Char :=
  (bytes text).map byteChar

/-! ## What passes -/

theorem share10_of_value? {c : Char} {v : Nat} (h : value? c = some v) (i : Nat) :
    share10 i c = v * (10 - i) := by
  rw [share10, h, Option.getD_some, weightIn10]

/-- Nine digits and a last character that has a value have a sum. -/
theorem sum10_eq_ok_iff {front : List UInt8} (hfront : front.length = 9) (last : UInt8) {t : Nat} :
    sumFrom weightIn10 valueAt? 0 0 (front ++ [last]) = .ok t ↔
      (∀ c ∈ front.map byteChar, isAsciiDigit c = true) ∧ (value? (byteChar last)).isSome ∧
        t = positionalSum share10 0 ((front ++ [last]).map byteChar) := by
  have hdigit : ∀ i < 9, ∀ c, valueAt? i c = digitValue? c :=
    fun i hi c => if_neg (Nat.ne_of_lt hi)
  have hlast : ∀ u, sumFrom weightIn10 valueAt? 9 u [last] = .ok t ↔
      ∃ v, value? (byteChar last) = some v ∧ t = u + v := by
    intro u
    rw [sumFrom, valueAt?, if_pos rfl]
    cases value? (byteChar last) with
    | none => simp
    | some v => simp [sumFrom, weightIn10, eq_comm]
  have hshares : (∀ c ∈ front.map byteChar, isAsciiDigit c = true) →
      positionalSum (fun i c => decimal c * weightIn10 i) 0 (front.map byteChar) =
        positionalSum share10 0 (front.map byteChar) :=
    fun hdigits => positionalSum_congr
      (fun i c hc => (share10_of_value? (value?_of_digit (hdigits c hc)) i).symm) 0
  have hshare : ∀ {v}, value? (byteChar last) = some v → share10 9 (byteChar last) = v :=
    fun hv => (share10_of_value? hv 9).trans (Nat.mul_one _)
  rw [sumFrom_append, bind_eq_ok_iff, List.map_append, positionalSum_append, List.length_map,
    Nat.zero_add, hfront]
  simp only [sumFrom_eq_ok_iff hdigit (Nat.le_of_eq (by rw [hfront])), hlast, Nat.zero_add,
    List.map_singleton, positionalSum_cons, positionalSum_nil, Nat.add_zero]
  constructor
  · rintro ⟨u, ⟨hdigits, rfl⟩, v, hv, rfl⟩
    exact ⟨hdigits, by rw [hv]; rfl, by rw [hshares hdigits, hshare hv]⟩
  · rintro ⟨hdigits, hsome, rfl⟩
    obtain ⟨v, hv⟩ := Option.isSome_iff_exists.1 hsome
    exact ⟨_, ⟨hdigits, rfl⟩, v, hv, by rw [hshares hdigits, hshare hv]⟩

/-- Bytes are those in front and the last one. -/
theorem exists_front_last {n : Nat} {bs : List UInt8} (h : bs.length = n + 1) :
    ∃ front last, bs = front ++ [last] ∧ front.length = n := by
  have hne : bs ≠ [] := List.ne_nil_of_length_eq_add_one h
  refine ⟨bs.dropLast, bs.getLast hne, (List.dropLast_append_getLast hne).symm, ?_⟩
  rw [List.length_dropLast, h, Nat.add_sub_cancel]

theorem valid10_append_iff (front : List Char) (last : Char) (hfront : front.length = 9) :
    Valid10 (front ++ [last]) ↔
      (∀ c ∈ front, isAsciiDigit c = true) ∧ (value? last).isSome ∧
        11 ∣ positionalSum share10 0 (front ++ [last]) := by
  have htake : (front ++ [last]).take 9 = front := by simp [← hfront]
  have hdrop : (front ++ [last]).drop 9 = [last] := by simp [← hfront]
  constructor
  · rintro ⟨-, hdigits, hlast, hsum⟩
    rw [htake] at hdigits
    rw [hdrop] at hlast
    exact ⟨hdigits, hlast last (List.mem_singleton_self last), hsum⟩
  · rintro ⟨hdigits, hlast, hsum⟩
    refine ⟨by simp [hfront], by rwa [htake], ?_, hsum⟩
    rw [hdrop, List.forall_mem_singleton]
    exact hlast

/-- **The verdict on ten characters** is about the form of their bytes. -/
theorem verdict10_eq_ok_iff (text : String) :
    verdict10 text = .ok () ↔ Valid10 (readChars text) := by
  rw [verdict10, readChars]
  by_cases hlength : (bytes text).length = 10
  · obtain ⟨front, last, hbytes, hfront⟩ := exists_front_last hlength
    have hsum : ∀ t, sumFrom weightIn10 valueAt? 0 0 (front ++ [last]) = .ok t ↔
        (∀ c ∈ front.map byteChar, isAsciiDigit c = true) ∧ (value? (byteChar last)).isSome ∧
          t = positionalSum share10 0 (front.map byteChar ++ [byteChar last]) := by
      intro t
      rw [sum10_eq_ok_iff hfront last, List.map_append, List.map_singleton]
    have hvalid := valid10_append_iff (front.map byteChar) (byteChar last)
      (by rw [List.length_map, hfront])
    rw [if_pos hlength, hbytes, List.map_append, List.map_singleton, hvalid,
      judgement_eq_ok_iff (fun t => (hsum t).trans and_assoc.symm), and_assoc,
      Nat.dvd_iff_mod_eq_zero]
  · rw [if_neg hlength]
    simp only [reduceCtorEq, false_iff]
    exact fun h => hlength (by simpa using h.length_eq)

/-- The last digit is the one that is asked for if it completes the sum. -/
theorem missing_iff {d : Nat} (hd : d < 10) (t : Nat) :
    d = (10 - t % 10) % 10 ↔ 10 ∣ t + d := by
  omega

theorem digitValue?_eq_some_iff {c : Char} {v : Nat} :
    digitValue? c = some v ↔ isAsciiDigit c = true ∧ decimal c = v := by
  rw [digitValue?]
  cases h : isAsciiDigit c <;> simp

theorem valid13_append_iff (front : List Char) (last : Char) (hfront : front.length = 12) :
    Valid13 (front ++ [last]) ↔
      (∀ c ∈ front, isAsciiDigit c = true) ∧ isAsciiDigit last = true ∧
        10 ∣ positionalSum share13 0 front + decimal last := by
  have hsum : positionalSum share13 0 (front ++ [last]) =
      positionalSum share13 0 front + decimal last := by
    simp [positionalSum_append, hfront, share13, weightIn13]
  constructor
  · rintro ⟨-, hdigits, hdvd⟩
    rw [List.forall_mem_append, List.forall_mem_singleton] at hdigits
    exact ⟨hdigits.1, hdigits.2, hsum ▸ hdvd⟩
  · rintro ⟨hdigits, hlast, hdvd⟩
    refine ⟨by simp [hfront], ?_, hsum ▸ hdvd⟩
    rw [List.forall_mem_append, List.forall_mem_singleton]
    exact ⟨hdigits, hlast⟩

/-- **The verdict on thirteen digits** is about the form of their bytes: the last digit is the one
that the others ask for if the sum of all is a multiple of ten. -/
theorem verdict13_eq_ok_iff (text : String) :
    verdict13 text = .ok () ↔ Valid13 (readChars text) := by
  rw [verdict13, readChars]
  by_cases hlength : (bytes text).length = 13
  · obtain ⟨front, last, hbytes, hfront⟩ := exists_front_last hlength
    have htake : (front ++ [last]).take 12 = front := by simp [← hfront]
    have hget : (front ++ [last])[12]? = some last := by simp [← hfront]
    have hsum : ∀ t, sumFrom weightIn13 (fun _ => digitValue?) 0 0 front = .ok t ↔
        (∀ c ∈ front.map byteChar, isAsciiDigit c = true) ∧
          t = positionalSum share13 0 (front.map byteChar) := by
      intro t
      rw [sumFrom_eq_ok_iff (fun _ _ _ => rfl) (Nat.le_refl (0 + front.length)), Nat.zero_add]
      exact Iff.rfl
    have hvalid := valid13_append_iff (front.map byteChar) (byteChar last)
      (by rw [List.length_map, hfront])
    rw [if_pos hlength, hbytes, List.map_append, List.map_singleton, hvalid, htake, hget]
    rw [judgement_eq_ok_iff hsum, Option.bind_some, Function.comp_apply, digitValue?_eq_some_iff]
    apply and_congr_right
    intro hdigits
    exact and_congr_right fun hlast => missing_iff (decimal_lt hlast) _
  · rw [if_neg hlength]
    simp only [reduceCtorEq, false_iff]
    exact fun h => hlength (by simpa using h.length_eq)

theorem check10_eq_verdict10 (text : String) : check10 text = verdict10 text :=
  check10On_eq .wrapping text

theorem check13_eq_verdict13 (text : String) : check13 text = verdict13 text :=
  check13On_eq .wrapping text

/-- **Ten characters pass** if they have the form. -/
theorem check10_eq_ok_iff (text : String) : check10 text = .ok () ↔ Valid10 (readChars text) := by
  rw [check10_eq_verdict10, verdict10_eq_ok_iff]

/-- **Thirteen digits pass** if they have the form. -/
theorem check13_eq_ok_iff (text : String) : check13 text = .ok () ↔ Valid13 (readChars text) := by
  rw [check13_eq_verdict13, verdict13_eq_ok_iff]

/-! ## Either length -/

theorem length_readChars (text : String) : (readChars text).length = (bytes text).length :=
  List.length_map byteChar

theorem check_of_length10 {text : String} (h : (bytes (withoutDashes text)).length = 10) :
    check text = check10 (withoutDashes text) := by
  simp only [check, checkOn, h]
  rfl

theorem check_of_length13 {text : String} (h : (bytes (withoutDashes text)).length = 13) :
    check text = check13 (withoutDashes text) := by
  simp only [check, checkOn, h]
  rfl

theorem check_of_length {text : String} (h10 : (bytes (withoutDashes text)).length ≠ 10)
    (h13 : (bytes (withoutDashes text)).length ≠ 13) : check text = .error (wrongLength text) := by
  rw [check, checkOn]
  split
  · rename_i h
    exact absurd h h10
  · rename_i h
    exact absurd h h13
  · rfl

/-- **What passes has one of the two forms**, which its length tells apart. -/
theorem check_eq_ok_iff (text : String) :
    check text = .ok () ↔
      Valid10 (readChars (withoutDashes text)) ∨ Valid13 (readChars (withoutDashes text)) := by
  have hlength := length_readChars (withoutDashes text)
  by_cases h10 : (bytes (withoutDashes text)).length = 10
  · have hnot : ¬ Valid13 (readChars (withoutDashes text)) := by
      intro h
      have hform := h.length_eq
      omega
    rw [check_of_length10 h10, check10_eq_ok_iff, or_iff_left hnot]
  · have hnot : ¬ Valid10 (readChars (withoutDashes text)) := by
      intro h
      have hform := h.length_eq
      omega
    rw [or_iff_right hnot]
    by_cases h13 : (bytes (withoutDashes text)).length = 13
    · rw [check_of_length13 h13, check13_eq_ok_iff]
    · rw [check_of_length h10 h13]
      simp only [reduceCtorEq, false_iff]
      intro h
      have hform := h.length_eq
      omega

section Machine

variable {m : Type → Type} [Monad m] [LawfulMonad m] (machine : Machine m)

theorem check10On_eq_check10 (text : String) : check10On machine text = pure (check10 text) := by
  rw [check10On_eq, check10_eq_verdict10]

theorem check13On_eq_check13 (text : String) : check13On machine text = pure (check13 text) := by
  rw [check13On_eq, check13_eq_verdict13]

/-- **The answer is the same on every machine.** -/
theorem checkOn_eq_check (text : String) : checkOn machine text = pure (check text) := by
  rw [checkOn]
  split
  · rename_i h
    rw [check10On_eq_check10, check_of_length10 h]
  · rename_i h
    rw [check13On_eq_check13, check_of_length13 h]
  · rename_i h10 h13
    rw [check_of_length h10 h13]

end Machine

/-- Dashes count for nothing in whether a text passes. -/
theorem check_ok_congr {text other : String}
    (h : other.toList.filter (· != '-') = text.toList.filter (· != '-')) :
    check other = .ok () ↔ check text = .ok () := by
  rw [check_eq_ok_iff, check_eq_ok_iff, withoutDashes, withoutDashes, h]

/-- **The ISBN check is exact.** A text passes if its bytes without dashes are a number of ten
characters or one of thirteen digits, and one of any other length is refused for that, with
the text as it came. Dashes make no difference anywhere to whether a text passes. Whatever the
text, no byte behind the last one is asked for, and no step of the three checks leaves the words. -/
theorem isbn_exact (text : String) :
    (check text = .ok () ↔
      Valid10 (readChars (withoutDashes text)) ∨ Valid13 (readChars (withoutDashes text))) ∧
    ((bytes (withoutDashes text)).length ≠ 10 → (bytes (withoutDashes text)).length ≠ 13 →
      check text = .error (wrongLength text)) ∧
    (∀ other : String, other.toList.filter (· != '-') = text.toList.filter (· != '-') →
      (check other = .ok () ↔ check text = .ok ())) ∧
    checkOn .checked text = some (check text) ∧
    check10On .checked text = some (check10 text) ∧
    check13On .checked text = some (check13 text) :=
  ⟨check_eq_ok_iff text, check_of_length, fun _ => check_ok_congr,
    checkOn_eq_check .checked text, check10On_eq_check10 .checked text,
    check13On_eq_check13 .checked text⟩

/-- A book number that ends in `X`, with dashes and without, and one that is cut off. -/
theorem isbn_exact_of_book :
    (checkOn .checked "0-8044-2957-X" = some (.ok ()) ∧ check "080442957X" = .ok ()) ∧
      check "0-8044-2957" = .error (wrongLength "0-8044-2957") := by
  have hchars : readChars (withoutDashes "0-8044-2957-X") = "080442957X".toList := by decide
  have hvalid : Valid10 (readChars (withoutDashes "0-8044-2957-X")) := by
    rw [hchars]
    exact ⟨rfl, List.all_eq_true.1 (by decide), List.all_eq_true.1 (by decide), by decide⟩
  obtain ⟨hforms, -, hdashes, hwords, -⟩ := isbn_exact "0-8044-2957-X"
  obtain ⟨-, hlength, -⟩ := isbn_exact "0-8044-2957"
  have hok : check "0-8044-2957-X" = .ok () := hforms.2 (.inl hvalid)
  refine ⟨⟨?_, ?_⟩, ?_⟩
  · rw [hwords, hok]
  · exact (hdashes "080442957X" (by decide)).2 hok
  · exact hlength (by decide) (by decide)

end FieldChecks.Isbn
