import FieldChecks.Proofs.Text.Blank
import FieldChecks.Proofs.Text.Split
import Mathlib.Data.List.Infix

/-!
# Concatenation — when texts come apart as they were put together

Texts are put together with a separator between two of them, and split
again. A separator may overlap itself, and then a text can end with a part
of it that runs into the separator behind: `a|`, `||` and `b` are put
together as `a|||b`, which is cut behind `a`. A separator `Closes` a text
that it can be put behind without such an accident; one that does not
overlap itself closes every text (`closes_of_not_overlaps`). Texts that
are closed come apart as they were put together
(`segments_intercalate`). So do all texts where the separator is made of
blanks, as far as their trimmed pieces go.
-/

namespace FieldChecks

namespace Chars

variable {separator text before rest : List Char}

/-! ## What pieces are -/

theorem split_of_cut (hs : separator ≠ []) (h : FirstCut separator text before rest) :
    split separator text = before :: split separator rest :=
  (pieces_iff hs).1 (.cut h ((pieces_iff hs).2 rfl))

theorem split_of_whole (hs : separator ≠ []) (h : ¬ separator <:+: text) :
    split separator text = [text] :=
  (pieces_iff hs).1 (.whole h)

/-- What stands before a cut does not contain the separator. -/
theorem FirstCut.before_free (hs : separator ≠ []) (h : FirstCut separator text before rest) :
    ¬ separator <:+: before := by
  rintro ⟨other, behind, heq⟩
  have hle := h.2 other (behind ++ separator ++ rest) (by rw [h.1, ← heq]; simp)
  have hpos := List.length_pos_iff.2 hs
  have hlen := congrArg List.length heq
  simp only [List.length_append] at hlen
  omega

/-- A cut stays where it is when something is put behind the text. -/
theorem FirstCut.append (h : FirstCut separator text before rest) (more : List Char) :
    FirstCut separator (text ++ more) before (rest ++ more) := by
  refine ⟨by rw [h.1]; simp, fun other behind heq => ?_⟩
  by_contra! hlt
  -- an occurrence further to the front ends inside the text
  have hlen : (other ++ separator).length ≤ text.length := by
    rw [h.1]
    simp only [List.length_append]
    omega
  have hfront : other ++ separator <+: text :=
    List.prefix_of_prefix_length_le ⟨behind, heq.symm⟩ (List.prefix_append text more) hlen
  obtain ⟨behind', htext⟩ := hfront
  exact Nat.not_lt.2 (h.2 other behind' htext.symm) hlt

/-- Of a text, only what stands at and behind a cut matters to it. -/
theorem FirstCut.of_append {front : List Char}
    (h : FirstCut separator (front ++ text) (front ++ before) rest) :
    FirstCut separator text before rest := by
  obtain ⟨htext, hfirst⟩ := h
  refine ⟨by simpa using htext, fun other behind heq => ?_⟩
  have := hfirst (front ++ other) behind (by rw [heq]; simp)
  simpa using this

/-- **Where a piece stands**: it does not contain the separator, and on either side it has the
separator or an end of the text. -/
theorem Pieces.of_mem (hs : separator ≠ []) {pieces : List (List Char)}
    (h : Pieces separator text pieces) {piece : List Char} (hpiece : piece ∈ pieces) :
    ¬ separator <:+: piece ∧ ∃ left right, text = left ++ piece ++ right ∧
      (left = [] ∨ separator <:+ left) ∧ (right = [] ∨ separator <+: right) := by
  induction h with
  | whole hno =>
    obtain rfl := List.mem_singleton.1 hpiece
    exact ⟨hno, [], [], by simp, .inl rfl, .inl rfl⟩
  | @cut text before rest pieces hcut _ ih =>
    rcases List.mem_cons.1 hpiece with rfl | hpiece
    · refine ⟨hcut.before_free hs, [], separator ++ rest, ?_, .inl rfl, .inr ⟨rest, rfl⟩⟩
      simpa using hcut.1
    · obtain ⟨hno, left, right, rfl, hleft, hright⟩ := ih hpiece
      refine ⟨hno, before ++ separator ++ left, right, by rw [hcut.1]; simp, .inr ?_, hright⟩
      rcases hleft with rfl | hleft
      · exact ⟨before, by simp⟩
      · exact hleft.trans (List.suffix_append _ _)

/-! ## Closing a text -/

/-- **A separator closes a text** if it can be put behind it, making one more piece, which is
empty, and leaving the others as they are. -/
def Closes (separator text : List Char) : Prop :=
  ∀ pieces, Pieces separator text pieces → Pieces separator (text ++ separator) (pieces ++ [[]])

theorem closes_iff (hs : separator ≠ []) :
    Closes separator text ↔ split separator (text ++ separator) = split separator text ++ [[]] := by
  unfold Closes
  simp only [pieces_iff hs]
  constructor
  · intro h
    exact h _ rfl
  · rintro h _ rfl
    exact h

/-- A separator that closes a text without the separator is cut where it was put. -/
theorem Closes.firstCut (hs : separator ≠ []) (h : Closes separator text)
    (hno : ¬ separator <:+: text) : FirstCut separator (text ++ separator) text [] := by
  have hsplit := (closes_iff hs).1 h
  rw [split_of_whole hs hno] at hsplit
  cases hcut : cut? separator (text ++ separator) with
  | none => exact absurd (List.suffix_append text separator).isInfix (cut?_eq_none_iff.1 hcut)
  | some parts =>
    obtain ⟨before, rest⟩ := parts
    have hfirst := cut?_eq_some_iff.1 hcut
    rw [split_of_cut hs hfirst] at hsplit
    obtain ⟨rfl, -⟩ := List.cons.inj hsplit
    obtain rfl : rest = [] := by simpa using hfirst.1
    exact hfirst

/-- What stands behind a cut is closed if all of the text is. -/
theorem Closes.of_cut (hs : separator ≠ []) (h : Closes separator text)
    (hcut : FirstCut separator text before rest) : Closes separator rest := by
  rw [closes_iff hs] at h ⊢
  rw [split_of_cut hs hcut, split_of_cut hs (hcut.append separator), List.cons_append] at h
  exact (List.cons.inj h).2

/-- **What stands behind a text that is closed** is split as if it stood alone. -/
theorem split_append (hs : separator ≠ []) (h : Closes separator text) (more : List Char) :
    split separator (text ++ separator ++ more) = split separator text ++ split separator more := by
  have hpieces : Pieces separator text (split separator text) := (pieces_iff hs).2 rfl
  generalize split separator text = pieces at hpieces
  induction hpieces with
  | whole hno =>
    rw [split_of_cut hs ((h.firstCut hs hno).append more)]
    rfl
  | cut hcut _ ih =>
    have hmore := (hcut.append separator).append more
    rw [split_of_cut hs hmore, ih (h.of_cut hs hcut), List.cons_append]

/-! ## Separators that do not overlap themselves -/

/-- A part of the separator, but not all of it, stands at both its ends. -/
def Overlaps (separator : List Char) : Prop :=
  ∃ part, part ≠ [] ∧ part ≠ separator ∧ part <+: separator ∧ part <:+ separator

/-- **A separator that does not overlap itself closes every text.** -/
theorem closes_of_not_overlaps (hs : separator ≠ []) (h : ¬ Overlaps separator)
    (text : List Char) : Closes separator text := by
  intro pieces hpieces
  induction hpieces with
  | @whole text hno =>
    refine .cut ⟨by simp, fun other behind heq => ?_⟩ (.whole (by simpa using hs))
    by_contra! hlt
    rcases List.append_eq_append_iff.1 heq with ⟨part, hpart, hbehind⟩ | ⟨part, hpart, hbehind⟩
    · -- the end of that occurrence is the start of the separator behind the text
      have hlen := congrArg List.length hpart
      simp only [List.length_append] at hlen
      have hsuffix : part <:+ separator := by
        refine List.suffix_of_suffix_length_le ⟨text, hpart.symm⟩ ⟨other, rfl⟩ ?_
        omega
      refine h ⟨part, ?_, ?_, ⟨behind, hbehind.symm⟩, hsuffix⟩
      · rintro rfl
        exact hno ⟨other, [], by simpa using hpart⟩
      · rintro rfl
        omega
    · exact hno ⟨other, part, hpart.symm⟩
  | cut hcut _ ih => exact .cut (hcut.append separator) ih

/-- **Texts without the separator** are the pieces of what they are put together to, if the
separator closes them. -/
theorem split_intercalate (hs : separator ≠ []) {texts : List (List Char)} (hne : texts ≠ [])
    (hno : ∀ text ∈ texts, ¬ separator <:+: text)
    (hclosed : ∀ text ∈ texts.dropLast, Closes separator text) :
    split separator (separator.intercalate texts) = texts := by
  induction texts with
  | nil => exact absurd rfl hne
  | cons text texts ih =>
    have hwhole := split_of_whole hs (hno text List.mem_cons_self)
    cases texts with
    | nil => simpa using hwhole
    | cons other texts =>
      rw [List.intercalate_cons_cons, split_append hs (hclosed text (by simp)), hwhole,
        ih (List.cons_ne_nil _ _) (fun text htext => hno text (List.mem_cons_of_mem _ htext))
          fun text htext => hclosed text (by simp [htext])]
      rfl

/-! ## Trimmed pieces, and separators of blanks

Of a check list only the trimmed pieces count, and the empty ones among them do not. A separator
that is all blanks may overlap itself and run into blanks around it: more or fewer of the pieces
are then empty, and the others are the same. -/

/-- The pieces of a text, trimmed, without the empty ones. -/
def segments (separator text : List Char) : List (List Char) :=
  ((split separator text).map trim).filter (!·.isEmpty)

/-- The segments of a text without the separator: one, or none if it is blank. -/
def segment (text : List Char) : List (List Char) :=
  [trim text].filter (!·.isEmpty)

theorem segments_of_cut (hs : separator ≠ []) (h : FirstCut separator text before rest) :
    segments separator text = segment before ++ segments separator rest := by
  rw [segments, split_of_cut hs h, List.map_cons, ← List.singleton_append, List.filter_append]
  rfl

theorem segments_of_whole (hs : separator ≠ []) (h : ¬ separator <:+: text) :
    segments separator text = segment text := by
  rw [segments, split_of_whole hs h]
  rfl

theorem trim_append_blank {blank : List Char} (h : ∀ c ∈ blank, isBlank c) :
    trim (text ++ blank) = trim text := by
  obtain ⟨⟨left, right, htext, hleft, hright⟩, hends⟩ := trim_eq_iff.1 (rfl : trim text = _)
  refine trim_eq_iff.2 ⟨⟨left, right ++ blank, ?_, hleft, ?_⟩, hends⟩
  · rw [← List.append_assoc, ← htext]
  · exact fun c hc => (List.mem_append.1 hc).elim (hright c) (h c)

theorem trim_blank_append {blank : List Char} (h : ∀ c ∈ blank, isBlank c) :
    trim (blank ++ text) = trim text := by
  rw [trim, trim, List.dropWhile_append_of_pos h]

theorem segment_blank {blank : List Char} (h : ∀ c ∈ blank, isBlank c) : segment blank = [] := by
  have htrim : trim ([] ++ blank) = trim [] := trim_append_blank h
  rw [List.nil_append] at htrim
  rw [segment, htrim]
  rfl

/-- **Blanks in front of a text** change no segment, even where the separator is made of blanks. -/
theorem segments_blank_append (hs : separator ≠ []) (hblank : ∀ c ∈ separator, isBlank c)
    {blank : List Char} (h : ∀ c ∈ blank, isBlank c) (text : List Char) :
    segments separator (blank ++ text) = segments separator text := by
  induction hn : (blank ++ text).length using Nat.strongRecOn generalizing blank text with
  | ind n ih =>
    rcases eq_or_ne blank [] with rfl | hne
    · rfl
    cases hcut : cut? separator (blank ++ text) with
    | none =>
      have hno := cut?_eq_none_iff.1 hcut
      have hno' : ¬ separator <:+: text := fun hin =>
        hno (hin.trans (List.suffix_append blank text).isInfix)
      rw [segments_of_whole hs hno, segments_of_whole hs hno', segment, segment,
        trim_blank_append h]
    | some parts =>
      obtain ⟨before, rest⟩ := parts
      have hfirst := cut?_eq_some_iff.1 hcut
      rw [segments_of_cut hs hfirst]
      have heq := hfirst.1
      rw [List.append_assoc] at heq
      rcases List.append_eq_append_iff.1 heq with ⟨front, rfl, htext⟩ | ⟨back, rfl, hback⟩
      · -- the cut is in the text, and the blanks are in front of it
        have hsame : FirstCut separator text front rest :=
          .of_append (by simpa [htext] using hfirst)
        rw [segments_of_cut hs hsame, segment, segment, trim_blank_append h]
      · -- the cut is in the blanks, and the separator may end in the text
        rw [segment_blank fun c hc => h c (List.mem_append_left _ hc), List.nil_append]
        rcases List.append_eq_append_iff.1 hback with ⟨more, rfl, hrest⟩ | ⟨more, hmore, htext⟩
        · have hmore : ∀ c ∈ more, isBlank c := fun c hc => h c (by simp [hc])
          have hlen : (more ++ text).length < n := hn ▸ hrest ▸ hfirst.length_lt hs
          rw [hrest, ih _ hlen hmore text rfl]
        · have hmore : ∀ c ∈ more, isBlank c := fun c hc => hblank c (by simp [hmore, hc])
          have hlen : (more ++ rest).length < n := by
            have := List.length_pos_iff.2 hne
            rw [← hn, ← htext]
            simp only [List.length_append] at this ⊢
            omega
          rw [htext, ih _ hlen hmore rest rfl]

/-- **A separator of blanks** can be put between any two texts. -/
theorem segments_append_of_blank (hs : separator ≠ []) (hblank : ∀ c ∈ separator, isBlank c)
    (text more : List Char) :
    segments separator (text ++ separator ++ more) =
      segments separator text ++ segments separator more := by
  have hpieces : Pieces separator text (split separator text) := (pieces_iff hs).2 rfl
  generalize split separator text = pieces at hpieces
  induction hpieces with
  | @cut text before rest pieces hcut _ ih =>
    have hmore := (hcut.append separator).append more
    rw [segments_of_cut hs hmore, ih, segments_of_cut hs hcut, List.append_assoc]
  | @whole text hno =>
    cases hcut : cut? separator (text ++ separator ++ more) with
    | none => exact absurd ⟨text, more, rfl⟩ (cut?_eq_none_iff.1 hcut)
    | some parts =>
      obtain ⟨before, rest⟩ := parts
      have hfirst := cut?_eq_some_iff.1 hcut
      have hle : before.length ≤ text.length := hfirst.2 text more rfl
      rw [segments_of_cut hs hfirst, segments_of_whole hs hno]
      have heq := hfirst.1
      rw [List.append_assoc, List.append_assoc] at heq
      -- the cut is where the separator was put, or further to the front by some blanks
      obtain ⟨part, rfl, hpart⟩ : ∃ part, text = before ++ part ∧
          separator ++ rest = part ++ (separator ++ more) := by
        rcases List.append_eq_append_iff.1 heq with ⟨part, rfl, hpart⟩ | ⟨part, rfl, hpart⟩
        · simp only [List.length_append] at hle
          obtain rfl : part = [] := List.length_eq_zero_iff.1 (by omega)
          exact ⟨[], by simp, by simpa using hpart.symm⟩
        · exact ⟨part, rfl, hpart⟩
      rcases List.append_eq_append_iff.1 hpart with ⟨tail, rfl, -⟩ | ⟨tail, hsep, hmore⟩
      · exact absurd ⟨before, tail, by simp⟩ hno
      · have hblank' : ∀ c ∈ part ++ tail, isBlank c := hsep ▸ hblank
        obtain ⟨hpart, htail⟩ := List.forall_mem_append.1 hblank'
        rw [← segments_blank_append hs hblank htail rest, ← hmore,
          segments_blank_append hs hblank hblank more, segment, segment, trim_append_blank hpart]

/-- **What is put together with a separator** has the segments of the one and then those of the
other, if the separator closes the first or is made of blanks. -/
theorem segments_append (hs : separator ≠ [])
    (h : (∀ c ∈ separator, isBlank c) ∨ Closes separator text) (more : List Char) :
    segments separator (text ++ separator ++ more) =
      segments separator text ++ segments separator more := by
  rcases h with hblank | hcloses
  · exact segments_append_of_blank hs hblank text more
  · rw [segments, split_append hs hcloses, List.map_append, List.filter_append]
    rfl

/-- **Texts that are put together** have the segments of them all. -/
theorem segments_intercalate (hs : separator ≠ []) {texts : List (List Char)}
    (h : ∀ text ∈ texts.dropLast, (∀ c ∈ separator, isBlank c) ∨ Closes separator text) :
    segments separator (separator.intercalate texts) = texts.flatMap (segments separator) := by
  induction texts with
  | nil => exact segments_of_whole hs (by simpa using hs)
  | cons text texts ih =>
    cases texts with
    | nil => simp
    | cons other texts =>
      rw [List.flatMap_cons, List.intercalate_cons_cons, segments_append hs (h text (by simp)),
        ih fun text htext => h text (by simp [htext])]

end Chars

/-! ## At the level of texts -/

namespace Text

/-- A separator closes a text if it can be put behind it, making one more piece, which is empty,
and leaving the others as they are. -/
def Closes (separator text : String) : Prop :=
  Chars.Closes separator.toList text.toList

/-- A part of the separator, but not all of it, stands at both its ends. -/
def Overlaps (separator : String) : Prop :=
  Chars.Overlaps separator.toList

variable {separator : String}

theorem closes_of_not_overlaps (hs : separator ≠ "") (h : ¬ Overlaps separator) (text : String) :
    Closes separator text :=
  Chars.closes_of_not_overlaps (mt String.toList_eq_nil_iff.1 hs) h text.toList

theorem split_intercalate (hs : separator ≠ "") (h : ¬ Overlaps separator) {texts : List String}
    (hne : texts ≠ []) (hno : ∀ text ∈ texts, ¬ Contains separator text) :
    split separator (separator.intercalate texts) = texts := by
  have hs' := mt String.toList_eq_nil_iff.1 hs
  have hsplit : Chars.split separator.toList
      (separator.toList.intercalate (texts.map String.toList)) = texts.map String.toList := by
    refine Chars.split_intercalate hs' (by simpa using hne) ?_ fun text _ =>
      Chars.closes_of_not_overlaps hs' h text
    intro chars hchars
    obtain ⟨text, htext, rfl⟩ := List.mem_map.1 hchars
    exact hno text htext
  rw [split, String.toList_intercalate, hsplit]
  simp

end Text

end FieldChecks
