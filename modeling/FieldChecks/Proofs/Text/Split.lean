import FieldChecks.Text.Split

/-!
# Separators — what a cut finds, and what a split leaves

`cut?` and `splitFrom` read a text once, from left to right. This file
says what they find without reading: a cut stands at the first occurrence
of its separator (`cut?_eq_some_iff`), and the pieces of a text are what
is left by cutting, and cutting again behind the cut (`pieces_iff`). A
separator may overlap itself; the first occurrence then decides, and the
next piece starts behind it.
-/

namespace FieldChecks

namespace Chars

/-- The parts of a text before and behind the first occurrence of a separator. -/
def FirstCut (separator text before rest : List Char) : Prop :=
  text = before ++ separator ++ rest ∧
    ∀ other behind, text = other ++ separator ++ behind → before.length ≤ other.length

/-- **The pieces of a text**, cut at the first occurrence of a separator, then at the first one
behind that, and so on. -/
inductive Pieces (separator : List Char) : List Char → List (List Char) → Prop
  /-- A text without the separator is one piece. -/
  | whole {text : List Char} : ¬ separator <:+: text → Pieces separator text [text]
  /-- What stands before the first occurrence is a piece, and so are the pieces behind it. -/
  | cut {text before rest : List Char} {pieces : List (List Char)} :
      FirstCut separator text before rest → Pieces separator rest pieces →
      Pieces separator text (before :: pieces)

variable {separator text before rest : List Char}

/-! ## Cutting -/

theorem after?_eq_some_iff {head : List Char} :
    after? head text = some rest ↔ text = head ++ rest := by
  induction head generalizing text with
  | nil => simp [after?]
  | cons h head ih =>
    cases text with
    | nil => simp [after?]
    | cons c text =>
      by_cases hc : h = c
      · simp [after?, hc, ih]
      · simp [after?, hc, Ne.symm hc]

theorem after?_eq_none_iff {head : List Char} : after? head text = none ↔ ¬ head <+: text := by
  constructor
  · rintro h ⟨rest, rfl⟩
    rw [after?_eq_some_iff.2 rfl] at h
    exact Option.some_ne_none _ h
  · intro h
    cases hafter : after? head text with
    | none => rfl
    | some rest => exact absurd ⟨rest, (after?_eq_some_iff.1 hafter).symm⟩ h

/-- **A cut stands at the first occurrence.** -/
theorem cut?_eq_some_iff :
    cut? separator text = some (before, rest) ↔ FirstCut separator text before rest := by
  induction text generalizing before with
  | nil =>
    cases separator with
    | nil =>
      simp only [cut?, FirstCut, List.isEmpty_nil, if_true, Option.some.injEq, Prod.mk.injEq,
        List.append_nil, List.nil_eq_append_iff]
      constructor
      · rintro ⟨rfl, rfl⟩
        exact ⟨⟨rfl, rfl⟩, fun _ _ _ => Nat.zero_le _⟩
      · rintro ⟨⟨rfl, rfl⟩, -⟩
        exact ⟨rfl, rfl⟩
    | cons d ds => simp [cut?, FirstCut]
  | cons c cs ih =>
    rw [cut?]
    cases h : after? separator (c :: cs) with
    | some behind =>
      have hcs : c :: cs = separator ++ behind := after?_eq_some_iff.1 h
      constructor
      · intro heq
        obtain ⟨rfl, rfl⟩ : [] = before ∧ behind = rest := by simpa using heq
        exact ⟨by simpa using hcs, fun _ _ _ => Nat.zero_le _⟩
      · rintro ⟨htext, hfirst⟩
        obtain rfl : before = [] := List.length_eq_zero_iff.1
          (Nat.le_zero.1 (hfirst [] behind (by simpa using hcs)))
        rw [hcs] at htext
        simpa using htext
    | none =>
      have hno : ∀ behind, c :: cs ≠ separator ++ behind := fun behind heq =>
        after?_eq_none_iff.1 h ⟨behind, heq.symm⟩
      simp only [Option.map_eq_some_iff, Prod.exists, Prod.mk.injEq]
      constructor
      · rintro ⟨before', rest', hcut, rfl, rfl⟩
        obtain ⟨hcs, hfirst⟩ := ih.1 hcut
        refine ⟨by rw [hcs]; rfl, fun other behind heq => ?_⟩
        cases other with
        | nil => exact absurd (by simpa using heq) (hno behind)
        | cons d other =>
          have htail : cs = other ++ separator ++ behind := by simpa using (List.cons.inj heq).2
          simpa using hfirst other behind htail
      · rintro ⟨htext, hfirst⟩
        cases before with
        | nil => exact absurd (by simpa using htext) (hno rest)
        | cons d before =>
          obtain ⟨rfl, hcs⟩ := List.cons.inj htext
          refine ⟨before, rest, ih.2 ⟨hcs, fun other behind heq => ?_⟩, rfl, rfl⟩
          have := hfirst (c :: other) behind (by rw [heq]; rfl)
          simpa using this

/-- **A separator occurs where a cut finds it.** -/
theorem occurs_iff : occurs separator text = true ↔ separator <:+: text := by
  unfold occurs
  induction text with
  | nil => cases separator <;> simp [cut?]
  | cons c cs ih =>
    rw [List.infix_cons_iff, ← ih, cut?]
    cases h : after? separator (c :: cs) with
    | some behind =>
      have : separator <+: c :: cs := ⟨behind, (after?_eq_some_iff.1 h).symm⟩
      simp [this]
    | none =>
      have : ¬ separator <+: c :: cs := after?_eq_none_iff.1 h
      simp [this]

theorem cut?_eq_none_iff : cut? separator text = none ↔ ¬ separator <:+: text := by
  rw [← occurs_iff, occurs, Bool.not_eq_true, Option.isSome_eq_false_iff, Option.isNone_iff_eq_none]

/-! ## Splitting -/

/-- Characters that still belong to a separator are passed over. -/
theorem splitFrom_skip (skip : Nat) (piece : List Char) :
    splitFrom separator skip piece text = splitFrom separator 0 piece (text.drop skip) := by
  induction skip generalizing text with
  | zero => rfl
  | succ skip ih =>
    cases text with
    | nil => simp [splitFrom]
    | cons c text => rw [splitFrom, ih, List.drop_succ_cons]

/-- **Splitting is cutting, and splitting what stands behind the cut.** -/
theorem splitFrom_eq (hs : separator ≠ []) (piece : List Char) :
    splitFrom separator 0 piece text = match cut? separator text with
      | none => [piece.reverse ++ text]
      | some (before, rest) => (piece.reverse ++ before) :: splitFrom separator 0 [] rest := by
  induction text generalizing piece with
  | nil =>
    have : separator.isEmpty = false := by simpa using hs
    simp [splitFrom, cut?, this]
  | cons c cs ih =>
    rw [splitFrom, cut?]
    cases h : after? separator (c :: cs) with
    | some rest =>
      -- the rest of the separator is passed over, which leaves what stands behind it
      have hrest : cs.drop (separator.length - 1) = rest := by
        obtain ⟨d, ds, rfl⟩ := List.exists_cons_of_ne_nil hs
        obtain ⟨-, hcs⟩ := List.cons.inj (after?_eq_some_iff.1 h)
        simp [hcs]
      simp [splitFrom_skip, hrest]
    | none =>
      simp only [Option.isSome_none, Bool.false_eq_true, if_false]
      rw [ih]
      cases cut? separator cs <;> simp

theorem split_eq (hs : separator ≠ []) : split separator text = splitFrom separator 0 [] text := by
  have : separator.isEmpty = false := by simpa using hs
  simp [split, this]

/-- What stands behind a cut is shorter than the text. -/
theorem FirstCut.length_lt (hs : separator ≠ []) (h : FirstCut separator text before rest) :
    rest.length < text.length := by
  have := List.length_pos_iff.2 hs
  rw [h.1]
  simp only [List.length_append]
  omega

/-- **A text has the pieces that splitting gives, and no others.** -/
theorem pieces_iff (hs : separator ≠ []) {pieces : List (List Char)} :
    Pieces separator text pieces ↔ split separator text = pieces := by
  rw [split_eq hs]
  constructor
  · intro h
    induction h with
    | whole hno => rw [splitFrom_eq hs, cut?_eq_none_iff.2 hno]; rfl
    | cut hcut _ ih => rw [splitFrom_eq hs, cut?_eq_some_iff.2 hcut]; simp [ih]
  · rintro rfl
    -- each cut leaves a shorter text
    induction hn : text.length using Nat.strongRecOn generalizing text with
    | ind n ih =>
      rw [splitFrom_eq hs]
      cases h : cut? separator text with
      | none => exact .whole (cut?_eq_none_iff.1 h)
      | some parts =>
        have hcut := cut?_eq_some_iff.1 h
        exact .cut hcut (ih _ (hn ▸ hcut.length_lt hs) rfl)

end Chars

/-! ## At the level of texts -/

namespace Text

/-- The parts of a text before and behind the first occurrence of a separator. -/
def FirstCut (separator text before rest : String) : Prop :=
  Chars.FirstCut separator.toList text.toList before.toList rest.toList

/-- Whether a separator stands somewhere in a text. -/
def Contains (separator text : String) : Prop :=
  separator.toList <:+: text.toList

/-- The pieces of a text between the occurrences of a separator, taken from left to right and
without overlap. -/
def Pieces (separator text : String) (pieces : List String) : Prop :=
  Chars.Pieces separator.toList text.toList (pieces.map String.toList)

variable {separator text before rest : String}

theorem cut?_eq_some_iff :
    cut? separator text = some (before, rest) ↔ FirstCut separator text before rest := by
  simp only [cut?, FirstCut, ← Chars.cut?_eq_some_iff, Option.map_eq_some_iff, Prod.exists,
    Prod.mk.injEq]
  constructor
  · rintro ⟨b, r, h, rfl, rfl⟩
    simpa using h
  · intro h
    exact ⟨_, _, h, String.ofList_toList, String.ofList_toList⟩

theorem cut?_eq_none_iff : cut? separator text = none ↔ ¬ Contains separator text := by
  rw [cut?, Option.map_eq_none_iff, Chars.cut?_eq_none_iff, Contains]

theorem occurs_iff : occurs separator text = true ↔ Contains separator text :=
  Chars.occurs_iff

instance : Decidable (Contains separator text) :=
  decidable_of_iff _ occurs_iff

instance : Decidable (FirstCut separator text before rest) :=
  decidable_of_iff _ cut?_eq_some_iff

theorem pieces_iff (hs : separator ≠ "") {pieces : List String} :
    Pieces separator text pieces ↔ split separator text = pieces := by
  have hs' : separator.toList ≠ [] := fun h => hs (String.toList_eq_nil_iff.1 h)
  rw [Pieces, Chars.pieces_iff hs', split]
  constructor
  · intro h
    simp [h]
  · rintro rfl
    simp

/-- Where a separator overlaps itself, the first occurrence is the one that is cut. -/
example : split ",," "a,,,b" = ["a", ",b"] := by decide

end Text

end FieldChecks
