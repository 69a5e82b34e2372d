import FieldChecks.Proofs.Json.Grammar

/-!
# Skipping — values are read over from end to end

Skipping keeps a state and looks at one character at a time. The grammar
speaks of whole values. This file brings the two together: a value takes
the state in which a value is expected to the one behind a value, at any
depth of brackets (`IsValue.passes`), so skipping a value leaves exactly
what follows it (`skip_value`). What holds of a bracket is said once, for
lists and objects alike (`run_bracketed`).
-/

namespace FieldChecks.Json

/-! ## What may follow, and what comes first -/

theorem Delimits.of_blank_append {blanks rest : List Char} (hblanks : Blanks blanks)
    (h : Delimits rest) : Delimits (blanks ++ rest) := by
  cases blanks with
  | nil => exact h
  | cons c blanks =>
    intro d hd
    obtain rfl : c = d := by simpa using hd
    exact .inl (hblanks c List.mem_cons_self)

theorem delimits_comma (rest : List Char) : Delimits (',' :: rest) := by
  intro c hc
  obtain rfl : ',' = c := by simpa using hc
  exact .inr (.inl rfl)

theorem delimits_closing (bracket : Bracket) (rest : List Char) :
    Delimits (bracket.closing :: rest) := by
  intro c hc
  obtain rfl : bracket.closing = c := by simpa using hc
  cases bracket
  · exact .inr (.inr (.inl rfl))
  · exact .inr (.inr (.inr rfl))

/-- A character with which an entry of a bracket may start: it is not blank, and closes nothing. -/
structure Starts (c : Char) : Prop where
  not_blank : isJsonBlank c = false
  not_list : c ≠ ']'
  not_object : c ≠ '\x7d'

/-- A text that starts as an entry of a bracket may. -/
def IsEntry (cs : List Char) : Prop :=
  ∃ c rest, cs = c :: rest ∧ Starts c

theorem IsEntry.append {cs : List Char} (h : IsEntry cs) (rest : List Char) :
    IsEntry (cs ++ rest) := by
  obtain ⟨c, more, rfl, hc⟩ := h
  exact ⟨c, more ++ rest, rfl, hc⟩

theorem starts_of_isAsciiDigit {c : Char} (h : isAsciiDigit c = true) : Starts c := by
  refine ⟨?_, ?_, ?_⟩
  · by_contra hblank
    simp only [isJsonBlank, Bool.not_eq_false, Bool.or_eq_true, beq_iff_eq] at hblank
    rcases hblank with ((rfl | rfl) | rfl) | rfl <;> cases h
  · rintro rfl
    cases h
  · rintro rfl
    cases h

theorem IsNumber.isEntry {cs : List Char} (h : IsNumber cs) : IsEntry cs := by
  obtain ⟨hsign, hwhole, -, -⟩ := h
  rcases hsign with rfl | rfl
  · cases hwhole with
    | zero => exact ⟨_, _, rfl, starts_of_isAsciiDigit rfl⟩
    | digits hfirst _ _ => exact ⟨_, _, rfl, starts_of_isAsciiDigit hfirst⟩
  · exact ⟨_, _, rfl, by decide, by decide, by decide⟩

theorem IsString.isEntry {cs : List Char} {text : String} (h : IsString cs text) : IsEntry cs := by
  cases h with
  | quoted _ => exact ⟨_, _, rfl, by decide, by decide, by decide⟩

theorem isEntry_boolChars (flag : Bool) : IsEntry (boolChars flag) := by
  cases flag <;> exact ⟨_, _, rfl, by decide, by decide, by decide⟩

theorem Bracketed.isEntry {bracket : Bracket} {cs : List Char} {items : List (List Char)}
    (h : Bracketed bracket cs items) : IsEntry cs := by
  have hopening : Starts bracket.opening := by
    cases bracket <;> exact ⟨by decide, by decide, by decide⟩
  cases h with
  | empty _ => exact ⟨_, _, rfl, hopening⟩
  | filled _ => exact ⟨_, _, rfl, hopening⟩

theorem IsValue.isEntry {cs : List Char} (h : IsValue cs) : IsEntry cs := by
  cases h with
  | null | yes | no | string _ => exact ⟨_, _, rfl, by decide, by decide, by decide⟩
  | number h => exact h.isEntry
  | list h _ => exact h.isEntry
  | object h _ _ _ => exact h.isEntry

theorem Member.isEntry_chars (member : Member) : IsEntry member.chars :=
  ⟨_, _, rfl, by decide, by decide, by decide⟩

namespace Skip

variable {state : State} {brackets : List Bracket} {bracket : Bracket}
variable {c : Char} {cs rest : List Char}

/-! ## Steps -/

theorem run_more (next : State) (h : step state c = .more next) :
    run state (c :: cs) = run next cs := by
  rw [run, h]

/-- Blanks are passed over wherever a state does not mind them. -/
theorem run_blanks {blanks : List Char} (h : Blanks blanks)
    (hstate : ∀ c, isJsonBlank c = true → step state c = .more state) :
    run state (blanks ++ rest) = run state rest := by
  induction blanks with
  | nil => rfl
  | cons c blanks ih =>
    rw [List.cons_append, run_more _ (hstate c (h c List.mem_cons_self))]
    exact ih fun d hd => h d (List.mem_cons_of_mem c hd)

/-- Characters that lead from a state back to it. -/
theorem run_repeated {keep : Char → Prop} (h : ∀ d ∈ cs, keep d)
    (hstate : ∀ c, keep c → step state c = .more state) :
    run state (cs ++ rest) = run state rest := by
  induction cs with
  | nil => rfl
  | cons c cs ih =>
    rw [List.cons_append, run_more _ (hstate c (h c List.mem_cons_self))]
    exact ih fun d hd => h d (List.mem_cons_of_mem c hd)

/-! ## Numbers -/

/-- The places where a number may end. -/
def NumberPlace.IsLast : NumberPlace → Prop
  | .zero | .whole | .fraction | .powerDigits => True
  | .sign | .point | .power | .powerSign => False

/-- A number that may end has ended where it cannot go on. -/
theorem run_number_end {place : NumberPlace} (hplace : place.IsLast) (h : Delimits rest) :
    run ⟨.number place, brackets⟩ rest = run ⟨.next, brackets⟩ rest := by
  cases rest with
  | nil => cases place <;> first | rfl | exact hplace.elim
  | cons c cs =>
    have hstep : step ⟨.number place, brackets⟩ c = step ⟨.next, brackets⟩ c := by
      -- Each of the characters is for a number that may end what it is behind a value.
      have hc := h c rfl
      simp only [isJsonBlank, Bool.or_eq_true, beq_iff_eq] at hc
      rcases hc with (((rfl | rfl) | rfl) | rfl) | rfl | rfl | rfl <;>
        cases place <;> first | rfl | exact hplace.elim
    rw [run, run, hstep]

/-- Digits, of which there is one at least, take a place to another. -/
theorem run_digits {place : NumberPlace} (last : NumberPlace) (h : AreDigits cs)
    (hfirst : ∀ c, isAsciiDigit c = true →
      step ⟨.number place, brackets⟩ c = .more ⟨.number last, brackets⟩)
    (hmore : ∀ c, isAsciiDigit c = true →
      step ⟨.number last, brackets⟩ c = .more ⟨.number last, brackets⟩) :
    run ⟨.number place, brackets⟩ (cs ++ rest) = run ⟨.number last, brackets⟩ rest := by
  obtain ⟨hne, hdigits⟩ := h
  cases cs with
  | nil => exact absurd rfl hne
  | cons c cs =>
    rw [List.cons_append, run_more _ (hfirst c (hdigits c List.mem_cons_self))]
    exact run_repeated (fun d hd => hdigits d (List.mem_cons_of_mem c hd)) hmore

/-- An exponent ends a number, if there is one. -/
theorem run_exponent {place : NumberPlace}
    (hplace : place = .zero ∨ place = .whole ∨ place = .fraction) (h : IsExponent cs)
    (hrest : Delimits rest) :
    run ⟨.number place, brackets⟩ (cs ++ rest) = run ⟨.next, brackets⟩ rest := by
  cases h with
  | absent =>
    have hlast : place.IsLast := by rcases hplace with rfl | rfl | rfl <;> trivial
    exact run_number_end hlast hrest
  | @digits letter sign digits hletter hsign hdigits =>
    have hstep : step ⟨.number place, brackets⟩ letter = .more ⟨.number .power, brackets⟩ := by
      rcases hletter with rfl | rfl <;> rcases hplace with rfl | rfl | rfl <;> rfl
    have hend : run ⟨.number .powerDigits, brackets⟩ rest = run ⟨.next, brackets⟩ rest :=
      run_number_end trivial hrest
    rw [List.cons_append, run_more _ hstep, List.append_assoc]
    rcases hsign with rfl | hsign
    · rw [List.nil_append, run_digits .powerDigits hdigits ?_ ?_, hend]
      · intro c hc
        have hplus : c ≠ '+' := by rintro rfl; cases hc
        have hminus : c ≠ '-' := by rintro rfl; cases hc
        simp [step, inNumber, hc, hplus, hminus]
      · intro c hc
        simp [step, inNumber, hc]
    · have hsigned : run ⟨.number .power, brackets⟩ (sign ++ (digits ++ rest)) =
          run ⟨.number .powerSign, brackets⟩ (digits ++ rest) := by
        rcases hsign with rfl | rfl <;> exact run_more _ rfl
      rw [hsigned, run_digits .powerDigits hdigits ?_ ?_, hend]
      · intro c hc
        simp [step, inNumber, hc]
      · intro c hc
        simp [step, inNumber, hc]

/-- So do a fraction and an exponent, behind the part before the point. -/
theorem run_fraction {place : NumberPlace} (hplace : place = .zero ∨ place = .whole)
    {fraction exponent : List Char} (hfraction : IsFraction fraction)
    (hexponent : IsExponent exponent) (hrest : Delimits rest) :
    run ⟨.number place, brackets⟩ (fraction ++ (exponent ++ rest)) =
      run ⟨.next, brackets⟩ rest := by
  cases hfraction with
  | absent => exact run_exponent (hplace.imp_right .inl) hexponent hrest
  | digits hdigits =>
    have hstep : step ⟨.number place, brackets⟩ '.' = .more ⟨.number .point, brackets⟩ := by
      rcases hplace with rfl | rfl <;> rfl
    rw [List.cons_append, run_more _ hstep, run_digits .fraction hdigits ?_ ?_]
    · exact run_exponent (.inr (.inr rfl)) hexponent hrest
    · intro c hc
      simp [step, inNumber, hc]
    · intro c hc
      simp [step, inNumber, hc]

/-- The part before the point starts a number, with its sign or without. -/
theorem run_whole (start : State) {whole : List Char} (h : IsWhole whole)
    (hzero : step start '0' = .more ⟨.number .zero, brackets⟩)
    (hdigit : ∀ c, isAsciiDigit c = true → c ≠ '0' →
      step start c = .more ⟨.number .whole, brackets⟩) :
    ∃ place, (place = .zero ∨ place = .whole) ∧
      run start (whole ++ rest) = run ⟨.number place, brackets⟩ rest := by
  cases h with
  | zero => exact ⟨.zero, .inl rfl, run_more _ hzero⟩
  | digits hfirst hnonzero hdigits =>
    refine ⟨.whole, .inr rfl, ?_⟩
    rw [List.cons_append, run_more _ (hdigit _ hfirst hnonzero)]
    exact run_repeated hdigits fun c hc => by simp [step, inNumber, hc]

/-- A digit other than zero starts a number. -/
theorem step_value_digit (h : isAsciiDigit c = true) (hzero : c ≠ '0') :
    step ⟨.value, brackets⟩ c = .more ⟨.number .whole, brackets⟩ := by
  have hstarts := starts_of_isAsciiDigit h
  simp only [step, hstarts.not_blank, Bool.false_eq_true, if_false]
  unfold startValue
  split <;> first | exact absurd rfl hzero | exact absurd h (by decide) | exact if_pos h

/-- **A number is passed over.** -/
theorem run_number (h : IsNumber cs) (hrest : Delimits rest) :
    run ⟨.value, brackets⟩ (cs ++ rest) = run ⟨.next, brackets⟩ rest := by
  obtain ⟨hsign, hwhole, hfraction, hexponent⟩ := h
  simp only [List.append_assoc]
  rcases hsign with rfl | rfl
  · obtain ⟨place, hplace, hrun⟩ := run_whole ⟨.value, brackets⟩ hwhole rfl
      fun c hc hzero => step_value_digit hc hzero
    rw [List.nil_append, hrun]
    exact run_fraction hplace hfraction hexponent hrest
  · obtain ⟨place, hplace, hrun⟩ := run_whole ⟨.number .sign, brackets⟩ hwhole rfl
      fun c hc hzero => by simp [step, inNumber, hc, hzero]
    rw [List.cons_append, List.nil_append, run_more _ rfl, hrun]
    exact run_fraction hplace hfraction hexponent hrest

/-! ## Strings -/

/-- The state behind the closing quote of a string. -/
def afterString (isKey : Bool) : Expecting :=
  if isKey then .colon else .next

/-- A hexadecimal digit takes one byte. -/
theorem utf8Size_of_isHexDigit (h : isHexDigit c = true) : c.utf8Size = 1 :=
  Char.utf8Size_eq_one_iff.2 (Nat.le_of_lt_succ (ascii_of_isHexDigit h))

/-- Hexadecimal digits are counted down. -/
theorem run_codeUnit {digits : List Char} {isKey : Bool} {missing : Nat}
    (hlength : digits.length = missing + 1) (h : ∀ d ∈ digits, isHexDigit d = true) :
    run ⟨.string (.codeUnit (missing + 1) true) isKey, brackets⟩ (digits ++ rest) =
      run ⟨.string .plain isKey, brackets⟩ rest := by
  induction digits generalizing missing with
  | nil => cases hlength
  | cons c digits ih =>
    have hc := h c List.mem_cons_self
    have hdigits : ∀ d ∈ digits, isHexDigit d = true :=
      fun d hd => h d (List.mem_cons_of_mem c hd)
    rw [List.cons_append]
    cases missing with
    | zero =>
      obtain rfl : digits = [] := List.length_eq_zero_iff.1 (by simpa using hlength)
      exact run_more _ (by simp [step, inString, hc, utf8Size_of_isHexDigit hc])
    | succ missing =>
      rw [run_more ⟨.string (.codeUnit (missing + 1) true) isKey, brackets⟩]
      · exact ih (by simpa using hlength) hdigits
      · simp [step, inString, hc, utf8Size_of_isHexDigit hc]

/-- **The inside of a string is passed over**, and its closing quote. -/
theorem run_inside {isKey : Bool} (h : IsInside cs) :
    run ⟨.string .plain isKey, brackets⟩ (cs ++ '"' :: rest) =
      run ⟨afterString isKey, brackets⟩ rest := by
  induction h with
  | nil => exact run_more _ (by simp [step, inString, afterString])
  | plain hquote hslash hcontrol _ ih =>
    rw [List.cons_append, run_more ⟨.string .plain isKey, brackets⟩, ih]
    simp [step, inString, hquote, hslash, hcontrol]
  | @letter e _ _ he _ ih =>
    rw [List.cons_append, List.cons_append,
      run_more ⟨.string .escape isKey, brackets⟩ rfl,
      run_more ⟨.string .plain isKey, brackets⟩, ih]
    have hletter : ['"', '\\', '/', 'b', 'f', 'n', 'r', 't'].contains e = true := by
      unfold StringLiteral.unescape? at he
      split at he <;> first | rfl | cases he
    simp only [step, inString, beq_iff_eq, StringLiteral.ne_u_of_unescape? he, if_false, hletter,
      if_true]
  | codeUnit hlength hdigits _ ih =>
    rw [List.cons_append, List.cons_append,
      run_more ⟨.string .escape isKey, brackets⟩ rfl,
      run_more ⟨.string (.codeUnit 4 true) isKey, brackets⟩ rfl, List.append_assoc,
      run_codeUnit hlength hdigits, ih]

/-! ## Brackets -/

/-- What comes first for an entry of a bracket: a value, or the key of a member. -/
def entryStart : Bracket → Expecting
  | .list => .value
  | .object => .key

/-- A text is an entry of a bracket, and is passed over as one. -/
structure Passes (bracket : Bracket) (item : List Char) : Prop where
  isEntry : IsEntry item
  run_eq : ∀ (outer : List Bracket) (rest : List Char), Delimits rest →
    run ⟨entryStart bracket, bracket :: outer⟩ (item ++ rest) = run ⟨.next, bracket :: outer⟩ rest

/-- Blanks do not matter in front of an entry, behind one, or in an empty bracket. -/
theorem step_blank (h : isJsonBlank c = true) :
    step ⟨entryStart bracket, brackets⟩ c = .more ⟨entryStart bracket, brackets⟩ ∧
      step ⟨.next, bracket :: brackets⟩ c = .more ⟨.next, bracket :: brackets⟩ ∧
      step ⟨.entry bracket, brackets⟩ c = .more ⟨.entry bracket, brackets⟩ := by
  refine ⟨?_, ?_, ?_⟩
  · cases bracket <;> simp [entryStart, step, h]
  · simp [step, afterValue, h]
  · simp [step, h]

/-- Behind an entry the bracket ends, or goes on behind a comma. -/
theorem step_next :
    step ⟨.next, bracket :: brackets⟩ bracket.closing = .more ⟨.next, brackets⟩ ∧
      step ⟨.next, bracket :: brackets⟩ ',' = .more ⟨entryStart bracket, bracket :: brackets⟩ := by
  cases bracket <;> exact ⟨rfl, rfl⟩

/-- The first entry of a bracket is passed over as any other. -/
theorem run_entry {cs : List Char} {items : List (List Char)} (h : Separated cs items)
    (hitems : ∀ item ∈ items, IsEntry item) (rest : List Char) :
    run ⟨.entry bracket, brackets⟩ (cs ++ rest) = run ⟨entryStart bracket, brackets⟩ (cs ++ rest) := by
  obtain ⟨blanks, item, more, hblanks, hitem, rfl⟩ : ∃ blanks item more, Blanks blanks ∧
      IsEntry item ∧ cs = blanks ++ (item ++ more) := by
    cases h with
    | last hbefore _ => exact ⟨_, _, _, hbefore, hitems _ (by simp), rfl⟩
    | more hbefore _ _ => exact ⟨_, _, _, hbefore, hitems _ (by simp), rfl⟩
  obtain ⟨c, tail, rfl, hc⟩ := hitem
  have hclosing : c ≠ bracket.closing := by
    cases bracket
    · exact hc.not_list
    · exact hc.not_object
  have hstep : step ⟨.entry bracket, brackets⟩ c = step ⟨entryStart bracket, brackets⟩ c := by
    cases bracket <;> simp [step, entryStart, hc.not_blank, hclosing]
  simp only [List.append_assoc, List.cons_append]
  rw [run_blanks hblanks fun d hd => (step_blank hd).2.2,
    run_blanks hblanks fun d hd => (step_blank hd).1, run, run, hstep]

/-- Entries are passed over up to the end of their bracket. -/
theorem run_separated {items : List (List Char)} (h : Separated cs items)
    (hitems : ∀ item ∈ items, Passes bracket item) (outer : List Bracket) (rest : List Char) :
    run ⟨entryStart bracket, bracket :: outer⟩ (cs ++ bracket.closing :: rest) =
      run ⟨.next, outer⟩ rest := by
  induction h with
  | last hbefore hafter =>
    have hdelimits := (delimits_closing bracket rest).of_blank_append hafter
    simp only [List.append_assoc]
    rw [run_blanks hbefore fun d hd => (step_blank hd).1,
      (hitems _ List.mem_cons_self).run_eq _ _ hdelimits,
      run_blanks hafter fun d hd => (step_blank hd).2.1, run_more _ step_next.1]
  | @more _ _ _ more _ hbefore hafter _ ih =>
    have hdelimits :=
      (delimits_comma (more ++ bracket.closing :: rest)).of_blank_append hafter
    simp only [List.append_assoc, List.cons_append]
    rw [run_blanks hbefore fun d hd => (step_blank hd).1,
      (hitems _ List.mem_cons_self).run_eq _ _ hdelimits,
      run_blanks hafter fun d hd => (step_blank hd).2.1, run_more _ step_next.2]
    exact ih fun item hitem => hitems item (List.mem_cons_of_mem _ hitem)

/-- **A bracket is passed over** if its entries are. -/
theorem run_bracketed {items : List (List Char)} (h : Bracketed bracket cs items)
    (hitems : ∀ item ∈ items, Passes bracket item) (outer : List Bracket) (rest : List Char) :
    run ⟨.value, outer⟩ (cs ++ rest) = run ⟨.next, outer⟩ rest := by
  have hopening : step ⟨.value, outer⟩ bracket.opening =
      .more ⟨.entry bracket, bracket :: outer⟩ := by
    cases bracket <;> rfl
  cases h with
  | empty hblanks =>
    rw [List.cons_append, run_more _ hopening, List.append_assoc,
      run_blanks hblanks fun d hd => (step_blank hd).2.2]
    exact run_more _ (by simp [step]; cases bracket <;> rfl)
  | filled hseparated =>
    rw [List.cons_append, run_more _ hopening, List.append_assoc,
      run_entry hseparated fun item hitem => (hitems item hitem).isEntry]
    exact run_separated hseparated hitems outer rest

/-- A member is passed over if its value is. -/
theorem Member.passes {member : Member} (hspaced : member.IsSpaced) (hkey : IsInside member.key)
    (hvalue : ∀ (outer : List Bracket) (rest : List Char), Delimits rest →
      run ⟨.value, outer⟩ (member.value ++ rest) = run ⟨.next, outer⟩ rest) :
    Passes .object member.chars := by
  refine ⟨member.isEntry_chars, fun outer rest hrest => ?_⟩
  rw [Member.chars, List.cons_append,
    run_more ⟨.string .plain true, .object :: outer⟩ rfl]
  simp only [List.append_assoc, List.cons_append]
  rw [run_inside hkey, afterString, if_pos rfl,
    run_blanks hspaced.before fun c hc => by simp [step, hc],
    run_more ⟨.value, .object :: outer⟩ rfl,
    run_blanks hspaced.after fun c hc => by simp [step, hc]]
  exact hvalue _ _ hrest

end Skip

/-! ## Values -/

/-- **A value is passed over**, however deep the brackets around it are. -/
theorem IsValue.run_eq {cs : List Char} (h : IsValue cs) (outer : List Bracket) (rest : List Char)
    (hrest : Delimits rest) :
    Skip.run ⟨.value, outer⟩ (cs ++ rest) = Skip.run ⟨.next, outer⟩ rest := by
  induction h generalizing outer rest with
  | null | yes | no => rfl
  | number h => exact Skip.run_number h hrest
  | string h =>
    rw [List.cons_append, Skip.run_more ⟨.string .plain false, outer⟩ rfl,
      List.append_assoc]
    exact Skip.run_inside h
  | list h hitems ih =>
    exact Skip.run_bracketed h (fun item hitem => ⟨(hitems item hitem).isEntry, fun inner more hmore =>
      ih item hitem (.list :: inner) more hmore⟩) outer rest
  | object h hspaced hkeys _ ih =>
    refine Skip.run_bracketed h (fun item hitem => ?_) outer rest
    obtain ⟨member, hmember, rfl⟩ := List.mem_map.1 hitem
    exact Skip.Member.passes (hspaced member hmember) (hkeys member hmember)
      fun inner more hmore => ih member hmember inner more hmore

/-- **Skipping a value leaves what follows it.** -/
theorem skip_value {blanks cs rest : List Char} (hblanks : Blanks blanks) (h : IsValue cs)
    (hrest : Delimits rest) : skip (blanks ++ (cs ++ rest)) = .ok rest := by
  rw [skip, Skip.run_blanks hblanks fun c hc => by simp [Skip.step, hc], h.run_eq [] rest hrest]
  cases rest <;> rfl

end FieldChecks.Json
