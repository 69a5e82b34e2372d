import FieldChecks.Proofs.CheckList.Vacancy

/-!
# Check lists — the canonical form

The canonical form of a list has the segments of the list with a
separator between two of them, and nothing else. Where the separator does
not overlap itself the segments come apart again as they were put together
(`segments_canonical`), so that a list and its canonical form are read
alike. A separator of one character cannot be made by what is put next to
it either: there a list may be padded with blanks and separators wherever
it has a margin (`segments_padded`). A longer separator may be completed
by the padding, as a comma behind a blank is by a blank in front of a
comma.
-/

namespace FieldChecks

namespace Chars

variable {separator text more run : List Char} {c : Char}

/-! ## Segments put together again -/

/-- A segment is not empty, has no blanks at its ends, and does not contain the separator. -/
theorem of_mem_segments (hs : separator ≠ []) {part : List Char}
    (h : part ∈ segments separator text) :
    part ≠ [] ∧ trim part = part ∧ ¬ separator <:+: part := by
  obtain ⟨hmem, hne⟩ := List.mem_filter.1 h
  obtain ⟨piece, hpiece, htrim⟩ := List.mem_map.1 hmem
  obtain ⟨⟨left, right, heq, -⟩, hends⟩ := trim_eq_iff.1 htrim
  have hpieces : Pieces separator text (split separator text) := (pieces_iff hs).2 rfl
  refine ⟨by simpa using hne, trim_eq_iff.2 ⟨⟨[], [], by simp⟩, hends⟩, fun hin => ?_⟩
  exact (hpieces.of_mem hs hpiece).1 (hin.trans ⟨left, right, heq.symm⟩)

/-- So it is the only segment of itself. -/
theorem segments_of_mem_segments (hs : separator ≠ []) {part : List Char}
    (h : part ∈ segments separator text) : segments separator part = [part] := by
  obtain ⟨hne, htrim, hno⟩ := of_mem_segments hs h
  rw [segments_of_whole hs hno, segment, htrim]
  simpa using hne

/-- **Segments come apart as they were put together.** -/
theorem segments_intercalate_segments (hs : separator ≠ []) (h : ¬ Overlaps separator)
    (text : List Char) :
    segments separator (separator.intercalate (segments separator text)) =
      segments separator text := by
  have hself : ∀ part ∈ segments separator text, segments separator part = [part] :=
    fun part hpart => segments_of_mem_segments hs hpart
  rw [segments_intercalate hs fun part _ => .inr (closes_of_not_overlaps hs h part),
    List.flatMap_congr hself, List.flatMap_singleton']

/-! ## Separators of one character -/

theorem not_overlaps_singleton (c : Char) : ¬ Overlaps [c] := by
  rintro ⟨part, hne, hproper, hfront, -⟩
  have hlength := hfront.length_le
  cases part with
  | nil => exact hne rfl
  | cons d part => exact hproper (hfront.eq_of_length_le (by simp))

/-- **A separator of one character** parts the segments of what stands on its sides. -/
theorem segments_append_cons (text more : List Char) :
    segments [c] (text ++ c :: more) = segments [c] text ++ segments [c] more := by
  have hcloses := closes_of_not_overlaps (List.cons_ne_nil c []) (not_overlaps_singleton c) text
  simpa using segments_append (List.cons_ne_nil c []) (.inr hcloses) more

theorem segments_of_not_mem (h : c ∉ text) : segments [c] text = segment text :=
  segments_of_whole (List.cons_ne_nil c []) fun hin => h (hin.subset (List.mem_singleton_self c))

theorem segments_nil : segments [c] [] = [] :=
  segments_of_not_mem List.not_mem_nil

/-- A blank in front of a text changes no segment. -/
theorem segments_blank_cons {d : Char} (hd : isBlank d) (text : List Char) :
    segments [c] (d :: text) = segments [c] text := by
  have hblank : ∀ e ∈ [d], isBlank e := by simpa using hd
  by_cases hdc : d = c
  · -- the blank is a separator itself
    rw [hdc, ← List.nil_append (c :: text), segments_append_cons, segments_nil, List.nil_append]
  have hfree : ∀ part, c ∉ part → segments [c] (d :: part) = segments [c] part := by
    intro part hpart
    have hcons : c ∉ d :: part := by simp [hpart, Ne.symm hdc]
    have htrim : trim (d :: part) = trim part := trim_blank_append hblank
    rw [segments_of_not_mem hcons, segments_of_not_mem hpart, segment, segment, htrim]
  by_cases hc : c ∈ text
  · obtain ⟨before, rest, rfl, hbefore⟩ := List.eq_append_cons_of_mem hc
    rw [← List.cons_append, segments_append_cons, segments_append_cons, hfree before hbefore]
  · exact hfree text hc

/-- A blank behind a text changes no segment. -/
theorem segments_append_blank {d : Char} (hd : isBlank d) (text : List Char) :
    segments [c] (text ++ [d]) = segments [c] text := by
  have hblank : ∀ e ∈ [d], isBlank e := by simpa using hd
  by_cases hdc : d = c
  · rw [hdc, segments_append_cons, segments_nil, List.append_nil]
  -- the blank comes to stand behind the last piece, so the induction is on the pieces
  have hpieces : Pieces [c] text (split [c] text) := (pieces_iff (List.cons_ne_nil c [])).2 rfl
  generalize split [c] text = pieces at hpieces
  induction hpieces with
  | @whole text hno =>
    have htext : c ∉ text := fun hc => hno ((List.singleton_infix_iff c text).2 hc)
    have happend : c ∉ text ++ [d] := by simp [htext, Ne.symm hdc]
    rw [segments_of_not_mem happend, segments_of_not_mem htext, segment, segment,
      trim_append_blank hblank]
  | @cut text before rest _ hcut _ ih =>
    obtain rfl : text = before ++ c :: rest := by simpa using hcut.1
    rw [List.append_assoc, List.cons_append, segments_append_cons, ih, segments_append_cons]

/-- **A run of blanks and separators** in front of a text changes no segment. -/
theorem segments_vacant_append (hrun : Vacant [c] run) (text : List Char) :
    segments [c] (run ++ text) = segments [c] text := by
  induction hrun with
  | nil => rfl
  | blank hd _ ih => rw [List.cons_append, segments_blank_cons hd, ih]
  | @separator run _ ih =>
    have hcons : [c] ++ run ++ text = [] ++ c :: (run ++ text) := by simp
    rw [hcons, segments_append_cons, segments_nil, List.nil_append, ih]

/-- **A run of blanks and separators** behind a text changes no segment. -/
theorem segments_append_vacant (hrun : Vacant [c] run) (text : List Char) :
    segments [c] (text ++ run) = segments [c] text := by
  induction hrun generalizing text with
  | nil => rw [List.append_nil]
  | @blank d run hd _ ih =>
    have hcons : text ++ d :: run = (text ++ [d]) ++ run := by simp
    rw [hcons, ih, segments_append_blank hd]
  | @separator run hrun _ =>
    rw [List.singleton_append, segments_append_cons, segments_of_vacant (by simp) hrun,
      List.append_nil]

end Chars

namespace CheckList

variable {separator list front run back : String} {c : Char} {config : Config}

/-! ## The canonical form -/

/-- **The canonical form of a list**: its segments, with a separator between two of them. -/
def canonical (separator list : String) : String :=
  separator.intercalate (segments separator list)

/-- The canonical form has the segments of the list. -/
theorem segments_canonical (hs : separator ≠ "") (h : ¬ Text.Overlaps separator) (list : String) :
    segments separator (canonical separator list) = segments separator list := by
  have hs' : separator.toList ≠ [] := mt String.toList_eq_nil_iff.1 hs
  have hchars : (canonical separator list).toList =
      separator.toList.intercalate (Chars.segments separator.toList list.toList) := by
    rw [canonical, String.toList_intercalate, segments_eq, List.map_map]
    simp [Function.comp_def]
  rw [segments_eq, hchars, Chars.segments_intercalate_segments hs' h, ← segments_eq]

example : canonical "," " required,,,  uuid  " = "required,uuid" := by decide

/-- **A margin of a list**: a place at one of its ends, or next to a separator. -/
inductive Margin (separator : String) : (front back : String) → Prop
  | start (back : String) : Margin separator "" back
  | behind (front back : String) : Margin separator (front ++ separator) back
  | before (front back : String) : Margin separator front (separator ++ back)
  | finish (front : String) : Margin separator front ""

/-- **A list may be padded at its margins** with blanks and separators. -/
theorem segments_padded (hrun : Vacant (String.singleton c) run)
    (h : Margin (String.singleton c) front back) :
    segments (String.singleton c) (front ++ run ++ back) =
      segments (String.singleton c) (front ++ back) := by
  have hrun' : Chars.Vacant [c] run.toList := by simpa [Vacant] using hrun
  rw [segments_eq, segments_eq]
  refine congrArg (List.map String.ofList) ?_
  simp only [String.toList_append, String.toList_singleton]
  cases h with
  | start back => simpa using Chars.segments_vacant_append hrun' back.toList
  | behind front back =>
    have hpadded : front.toList ++ [c] ++ run.toList ++ back.toList =
        front.toList ++ c :: (run.toList ++ back.toList) := by simp
    have hplain : front.toList ++ [c] ++ back.toList = front.toList ++ c :: back.toList := by simp
    simp only [String.toList_append, String.toList_singleton]
    rw [hpadded, hplain, Chars.segments_append_cons, Chars.segments_append_cons,
      Chars.segments_vacant_append hrun']
  | before front back =>
    simp only [String.toList_append, String.toList_singleton, List.singleton_append,
      Chars.segments_append_cons, Chars.segments_append_vacant hrun']
  | finish front => simpa using Chars.segments_append_vacant hrun' front.toList

/-- A blank can make a separator of two characters. -/
example : segments " ," ("" ++ " " ++ ",x") ≠ segments " ," ("" ++ ",x") := by decide

/-- **Lists are read by their canonical form**, where the check separator is one character. The
canonical form of a list is read to the same checks or fails with the same failure, and leaves the
same registry; it is its own canonical form; and blanks and separators at the margins of a list do
not change it. -/
theorem canonical_form (hseparator : config.checkSeparator = String.singleton c)
    (registry : Registry) (list : String) :
    read config (canonical config.checkSeparator list) registry = read config list registry ∧
    canonical config.checkSeparator (canonical config.checkSeparator list) =
      canonical config.checkSeparator list ∧
    ∀ front run back, list = front ++ back → Margin config.checkSeparator front back →
      Vacant config.checkSeparator run →
      canonical config.checkSeparator (front ++ run ++ back) =
        canonical config.checkSeparator list := by
  have hs : config.checkSeparator ≠ "" := by simp [hseparator]
  have hoverlaps : ¬ Text.Overlaps config.checkSeparator := by
    rw [hseparator, Text.Overlaps, String.toList_singleton]
    exact Chars.not_overlaps_singleton c
  have hsegments := segments_canonical hs hoverlaps list
  refine ⟨?_, ?_, ?_⟩
  · rw [read, read, hsegments]
  · rw [canonical, hsegments, canonical]
  · rintro front run back rfl hmargin hrun
    rw [hseparator] at hmargin hrun ⊢
    rw [canonical, canonical, segments_padded hrun hmargin]

/-- A list between bars, padded behind one of them. -/
theorem canonical_form_of_bars :
    let config : Config := { checkSeparator := "|" }
    let list := " required|| one_of:a b |"
    config.checkSeparator = String.singleton '|' ∧
      canonical config.checkSeparator list = "required|one_of:a b" ∧
      read config "required|one_of:a b" .builtIn = read config list .builtIn ∧
      canonical config.checkSeparator "required|one_of:a b" = "required|one_of:a b" ∧
      canonical config.checkSeparator (" required|" ++ " |\t" ++ "| one_of:a b |") =
        "required|one_of:a b" := by
  intro config list
  have hcanonical : canonical config.checkSeparator list = "required|one_of:a b" := by decide
  have hrun : Vacant config.checkSeparator " |\t" :=
    (segments_eq_nil_iff (by decide)).1 (by decide)
  obtain ⟨hread, hidem, hpadded⟩ :=
    @canonical_form '|' config (by decide) .builtIn list
  rw [hcanonical] at hread hidem hpadded
  exact ⟨by decide, hcanonical, hread, hidem,
    hpadded " required|" " |\t" "| one_of:a b |" (by decide) (.behind " required" _) hrun⟩

end CheckList

end FieldChecks
