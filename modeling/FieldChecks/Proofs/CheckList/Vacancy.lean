import FieldChecks.Proofs.CheckList.Concatenation

/-!
# Check lists — lists that name no check

A list of separators and blanks, and nothing else, is `Vacant`. Such lists
are just the ones without segments (`segments_eq_nil_iff`), however the
separator overlaps itself and whatever blanks it has: they are read to no
checks, and leave the registry alone.
-/

namespace FieldChecks

namespace Chars

/-- **A text of separators and blanks**, and nothing else. -/
inductive Vacant (separator : List Char) : List Char → Prop
  | nil : Vacant separator []
  | blank {c : Char} {text : List Char} :
      isBlank c → Vacant separator text → Vacant separator (c :: text)
  | separator {text : List Char} : Vacant separator text → Vacant separator (separator ++ text)

variable {separator text blank rest : List Char}

theorem Vacant.blank_append (hblank : ∀ c ∈ blank, isBlank c) (h : Vacant separator rest) :
    Vacant separator (blank ++ rest) := by
  induction blank with
  | nil => exact h
  | cons c blank ih =>
    obtain ⟨hc, hrest⟩ := List.forall_mem_cons.1 hblank
    exact .blank hc (ih hrest)

theorem vacant_of_blank (h : ∀ c ∈ text, isBlank c) : Vacant separator text := by
  simpa using Vacant.blank_append h .nil

/-- A vacant text is blank, or it is blank up to a separator and vacant behind it. -/
theorem Vacant.blank_or_cut (h : Vacant separator text) :
    (∀ c ∈ text, isBlank c) ∨ ∃ blank rest, text = blank ++ separator ++ rest ∧
      (∀ c ∈ blank, isBlank c) ∧ Vacant separator rest := by
  induction h with
  | nil => exact .inl (by simp)
  | blank hc _ ih =>
    rcases ih with hblank | ⟨blank, rest, rfl, hblank, hrest⟩
    · exact .inl (List.forall_mem_cons.2 ⟨hc, hblank⟩)
    · exact .inr ⟨_ :: blank, rest, rfl, List.forall_mem_cons.2 ⟨hc, hblank⟩, hrest⟩
  | separator h _ => exact .inr ⟨[], _, by simp, by simp, h⟩

/-- A separator that is not blank is found behind blanks where it was put. -/
theorem firstCut_of_blank (hs : ¬ ∀ c ∈ separator, isBlank c) (h : ∀ c ∈ blank, isBlank c) :
    FirstCut separator (blank ++ separator ++ rest) blank rest := by
  -- what is blank at the start of a text ends in its first separator
  have hstart : ∀ more, (separator ++ more).takeWhile isBlank = separator.takeWhile isBlank := by
    intro more
    rw [List.takeWhile_append, if_neg]
    intro hlen
    exact hs (List.takeWhile_eq_self_iff.1 ((List.takeWhile_prefix _).eq_of_length hlen))
  refine ⟨rfl, fun other behind heq => ?_⟩
  by_contra! hlt
  rw [List.append_assoc, List.append_assoc] at heq
  have hother : ∀ c ∈ other, isBlank c := by
    have hfront : other <+: blank :=
      List.prefix_of_prefix_length_le ⟨_, heq.symm⟩ (List.prefix_append _ _) (by omega)
    exact fun c hc => h c (hfront.subset hc)
  have hblanks := congrArg (fun cs => (cs.takeWhile isBlank).length) heq
  simp only [List.takeWhile_append_of_pos h, List.takeWhile_append_of_pos hother, hstart,
    List.length_append] at hblanks
  omega

theorem segments_of_blank (hs : separator ≠ []) (h : ∀ c ∈ text, isBlank c) :
    segments separator text = [] := by
  by_cases hblank : ∀ c ∈ separator, isBlank c
  · have hnil : segments separator (text ++ []) = segments separator [] :=
      segments_blank_append hs hblank h []
    rw [List.append_nil] at hnil
    exact hnil.trans (segments_of_whole hs (by simpa using hs))
  · have hno : ¬ separator <:+: text := fun hin =>
      hblank fun c hc => h c (List.IsInfix.subset hin hc)
    rw [segments_of_whole hs hno, segment_blank h]

/-- **A vacant text has no segments.** -/
theorem segments_of_vacant (hs : separator ≠ []) (h : Vacant separator text) :
    segments separator text = [] := by
  by_cases hblank : ∀ c ∈ separator, isBlank c
  · -- then the text is blank too
    refine segments_of_blank hs ?_
    induction h with
    | nil => simp
    | blank hc _ ih => exact List.forall_mem_cons.2 ⟨hc, ih⟩
    | separator _ ih => exact List.forall_mem_append.2 ⟨hblank, ih⟩
  · -- each cut leaves a shorter text
    induction hn : text.length using Nat.strongRecOn generalizing text with
    | ind n ih =>
      rcases h.blank_or_cut with htext | ⟨blank, rest, rfl, hfront, hrest⟩
      · exact segments_of_blank hs htext
      · have hcut : FirstCut separator (blank ++ separator ++ rest) blank rest :=
          firstCut_of_blank hblank hfront
        rw [segments_of_cut hs hcut, segment_blank hfront, List.nil_append,
          ih _ (hn ▸ hcut.length_lt hs) hrest rfl]

/-- A text that trims to nothing is blank. -/
theorem blank_of_segment (h : segment text = []) : ∀ c ∈ text, isBlank c := by
  have htrim : trim text = [] := by simpa [segment] using h
  obtain ⟨⟨left, right, rfl, hleft, hright⟩, -⟩ := trim_eq_iff.1 htrim
  simpa using List.forall_mem_append.2 ⟨hleft, hright⟩

/-- **A text without segments is vacant.** -/
theorem vacant_of_segments (hs : separator ≠ []) (h : segments separator text = []) :
    Vacant separator text := by
  have hpieces : Pieces separator text (split separator text) := (pieces_iff hs).2 rfl
  generalize split separator text = pieces at hpieces
  induction hpieces with
  | whole hno =>
    rw [segments_of_whole hs hno] at h
    exact vacant_of_blank (blank_of_segment h)
  | @cut text before rest _ hcut _ ih =>
    rw [segments_of_cut hs hcut, List.append_eq_nil_iff] at h
    rw [hcut.1, List.append_assoc]
    exact .blank_append (blank_of_segment h.1) (.separator (ih h.2))

end Chars

namespace CheckList

variable {separator list : String}

/-- A list of separators and blanks, and nothing else. -/
def Vacant (separator list : String) : Prop :=
  Chars.Vacant separator.toList list.toList

theorem vacant_of_isBlank (h : Text.isBlank list) : Vacant separator list :=
  Chars.vacant_of_blank (List.all_eq_true.1 h)

/-- **The lists without segments are those of separators and blanks.** -/
theorem segments_eq_nil_iff (hs : separator ≠ "") :
    segments separator list = [] ↔ Vacant separator list := by
  have hs' : separator.toList ≠ [] := mt String.toList_eq_nil_iff.1 hs
  rw [segments_eq, List.map_eq_nil_iff]
  exact ⟨Chars.vacant_of_segments hs', Chars.segments_of_vacant hs'⟩

/-- **A vacant list is read to no checks**, and leaves the registry as it is. -/
theorem read_of_vacant {config : Config} (hs : config.checkSeparator ≠ "")
    (h : Vacant config.checkSeparator list) (registry : Registry) :
    read config list registry = (.ok [], registry) := by
  rw [read, (segments_eq_nil_iff hs).2 h, bindAll]

end CheckList

end FieldChecks
