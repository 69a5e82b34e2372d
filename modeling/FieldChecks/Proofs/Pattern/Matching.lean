import FieldChecks.Pattern.Matching
import Mathlib.Logic.Function.Iterate

/-!
# Matching — which texts an expression matches

What an expression matches is said over the characters alone: a sequence
matches what falls into two parts that its expressions match, and a
repetition what falls into as many parts as it allows
(`Regex.Matches`). A condition looks at the characters on both sides of
its place, so they are part of the relation.

Matching keeps sets of places, which are the bits of numbers, and takes
all places through the expression at once. At every place it finds
exactly the matches that end there (`run_carries`), so it finds a match in
a text if and only if a part of the text matches (`matchesIn_iff`). A
repetition without a bound needs no more rounds than there are places,
since rounds that do not move on can be left out (`Power.short`).
-/

namespace FieldChecks.Pattern

/-! ## What an expression matches -/

/-- A relation between characters and the characters on both sides of them, if there are any. -/
abbrev Fit := Option Char → List Char → Option Char → Prop

/-- What falls into two parts, the one of the first relation and the other of the second. -/
def Fit.andThen (first second : Fit) : Fit := fun before cs after =>
  ∃ front back, cs = front ++ back ∧ first before front (back.head?.or after) ∧
    second (front.getLast?.or before) back after

/-- What falls into a number of parts, all of the same relation. -/
def Fit.times (fit : Fit) : Nat → Fit
  | 0 => fun _ cs _ => cs = []
  | count + 1 => fit.andThen (fit.times count)

/-- A repetition allows a number of parts. A least number above the most is the only one. -/
def Allows (least : Nat) (most : Option Nat) (count : Nat) : Prop :=
  least ≤ count ∧ ∀ bound ∈ most, count ≤ max least bound

/-- **What an expression matches**, between two characters or the ends of the text. -/
def Regex.Matches : Regex → Fit
  | .empty => fun _ cs _ => cs = []
  | .one set => fun _ cs _ => ∃ c, cs = [c] ∧ set.contains c = true
  | .here condition => fun before cs after => cs = [] ∧ condition.holds before after = true
  | .sequence first second => first.Matches.andThen second.Matches
  | .choice first second => fun before cs after =>
    first.Matches before cs after ∨ second.Matches before cs after
  | .repetition least most inner => fun before cs after =>
    ∃ count, Allows least most count ∧ inner.Matches.times count before cs after
  | .group _ inner => inner.Matches

/-! ## Places -/

/-- The characters of a text from one place to another are in a relation. -/
def Spans (text : List Char) (fit : Fit) (i j : Nat) : Prop :=
  ∃ before cs after, text = before ++ (cs ++ after) ∧ before.length = i ∧
    (before ++ cs).length = j ∧ fit before.getLast? cs after.head?

variable {text : List Char} {fit first second : Fit} {i j : Nat}

theorem Spans.le (h : Spans text fit i j) : i ≤ j ∧ j ≤ text.length := by
  obtain ⟨before, cs, after, rfl, rfl, rfl, -⟩ := h
  simp

/-- Nothing stands between a place and itself. -/
theorem spans_nil_iff : Spans text (fun _ cs _ => cs = []) i j ↔ i = j ∧ j ≤ text.length := by
  constructor
  · rintro ⟨before, cs, after, rfl, rfl, rfl, rfl⟩
    simp
  · rintro ⟨rfl, hle⟩
    exact ⟨text.take i, [], text.drop i, by simp, by simp [hle], by simp [hle], rfl⟩

/-- Two parts meet at a place. -/
theorem spans_andThen_iff :
    Spans text (first.andThen second) i j ↔ ∃ k, Spans text first i k ∧ Spans text second k j := by
  constructor
  · rintro ⟨before, cs, after, rfl, rfl, rfl, front, back, rfl, hfirst, hsecond⟩
    refine ⟨(before ++ front).length,
      ⟨before, front, back ++ after, by simp, rfl, rfl, by simpa using hfirst⟩,
      ⟨before ++ front, back, after, by simp, rfl, by simp, by simpa using hsecond⟩⟩
  · rintro ⟨k, ⟨before, front, after, rfl, rfl, rfl, hfirst⟩,
      ⟨before', back, after', htext, hlength, rfl, hsecond⟩⟩
    rw [← List.append_assoc] at htext
    obtain ⟨rfl, rfl⟩ := List.append_inj htext hlength.symm
    refine ⟨before, front ++ back, after', by simp, rfl, by simp, front, back, rfl, ?_, ?_⟩
    · simpa using hfirst
    · simpa using hsecond

/-! ## Rounds -/

/-- A number of steps of a relation. -/
def Power (R : Nat → Nat → Prop) : Nat → Nat → Nat → Prop
  | 0, i, j => i = j
  | count + 1, i, j => ∃ k, R i k ∧ Power R count k j

variable {R : Nat → Nat → Prop} {count more : Nat}

theorem spans_times_iff (hi : i ≤ text.length) :
    Spans text (fit.times count) i j ↔ Power (Spans text fit) count i j := by
  induction count generalizing i with
  | zero =>
    rw [Fit.times, spans_nil_iff, Power]
    exact ⟨And.left, fun h => ⟨h, h ▸ hi⟩⟩
  | succ count ih =>
    rw [Fit.times, spans_andThen_iff, Power]
    exact exists_congr fun k => and_congr_right fun hk => ih hk.le.2

theorem power_add_iff :
    Power R (count + more) i j ↔ ∃ k, Power R count i k ∧ Power R more k j := by
  induction count generalizing i with
  | zero => simp [Power]
  | succ count ih =>
    rw [Nat.add_right_comm]
    simp only [Power, ih]
    constructor
    · rintro ⟨k, hk, m, hm, hmore⟩
      exact ⟨m, ⟨k, hk, hm⟩, hmore⟩
    · rintro ⟨m, ⟨k, hk, hm⟩, hmore⟩
      exact ⟨k, hk, m, hm, hmore⟩

/-- Steps that do not move on can be left out. -/
theorem Power.short (hmono : ∀ {i j}, R i j → i ≤ j) (h : Power R count i j) :
    i ≤ j ∧ ∃ few ≤ j - i, Power R few i j := by
  induction count generalizing i with
  | zero =>
    obtain rfl : i = j := h
    exact ⟨Nat.le_refl i, 0, Nat.zero_le _, rfl⟩
  | succ count ih =>
    obtain ⟨k, hstep, hrest⟩ := h
    obtain ⟨hle, few, hfew, hpower⟩ := ih hrest
    have hfirst := hmono hstep
    refine ⟨Nat.le_trans hfirst hle, ?_⟩
    rcases Nat.eq_or_lt_of_le hfirst with rfl | hlt
    · exact ⟨few, hfew, hpower⟩
    · exact ⟨few + 1, by omega, k, hstep, hpower⟩

/-! ## Sets of places -/

/-- The function takes a set of places, none of them beyond the end, to the places that a relation
leads to from there. -/
def Carries (last : Nat) (f : Nat → Nat) (R : Nat → Nat → Prop) : Prop :=
  ∀ places, (∀ i, places.testBit i = true → i ≤ last) →
    ∀ j, (f places).testBit j = true ↔ ∃ i, places.testBit i = true ∧ R i j

variable {last : Nat} {f g : Nat → Nat} {S : Nat → Nat → Prop}

theorem Carries.within (h : Carries last f R) (hR : ∀ {i j}, i ≤ last → R i j → j ≤ last)
    {places : Nat} (hplaces : ∀ i, places.testBit i = true → i ≤ last) (j : Nat)
    (hj : (f places).testBit j = true) : j ≤ last := by
  obtain ⟨i, hi, hij⟩ := (h places hplaces j).1 hj
  exact hR (hplaces i hi) hij

theorem Carries.comp (hf : Carries last f R) (hR : ∀ {i j}, i ≤ last → R i j → j ≤ last)
    (hg : Carries last g S) : Carries last (g ∘ f) fun i j => ∃ k, R i k ∧ S k j := by
  intro places hplaces j
  rw [Function.comp_apply, hg (f places) (hf.within hR hplaces)]
  simp only [hf places hplaces]
  constructor
  · rintro ⟨k, ⟨i, hi, hik⟩, hkj⟩
    exact ⟨i, hi, k, hik, hkj⟩
  · rintro ⟨i, hi, k, hik, hkj⟩
    exact ⟨k, ⟨i, hi, hik⟩, hkj⟩

theorem Carries.or (hf : Carries last f R) (hg : Carries last g S) :
    Carries last (fun places => f places ||| g places) fun i j => R i j ∨ S i j := by
  intro places hplaces j
  rw [Nat.testBit_or, Bool.or_eq_true, hf places hplaces, hg places hplaces]
  constructor
  · rintro (⟨i, hi, hij⟩ | ⟨i, hi, hij⟩)
    · exact ⟨i, hi, .inl hij⟩
    · exact ⟨i, hi, .inr hij⟩
  · rintro ⟨i, hi, hij | hij⟩
    · exact .inl ⟨i, hi, hij⟩
    · exact .inr ⟨i, hi, hij⟩

theorem Carries.congr (hf : Carries last f R) (h : ∀ i j, i ≤ last → (R i j ↔ S i j)) :
    Carries last f S := by
  intro places hplaces j
  rw [hf places hplaces]
  exact exists_congr fun i => and_congr_right fun hi => h i j (hplaces i hi)

theorem carries_id : Carries last id Eq := by
  intro places _ j
  simp

/-- A function applied until it changes nothing has been applied as often as asked for. -/
theorem iterated_eq (times places : Nat) : iterated f times places = f^[times] places := by
  induction times generalizing places with
  | zero => rfl
  | succ times ih =>
    rw [iterated, Function.iterate_succ_apply]
    by_cases hfixed : f places = places
    · simp [hfixed, Function.iterate_fixed hfixed]
    · simpa [hfixed] using ih (f places)

/-- Gathering is applying the function that keeps what it is given. -/
theorem gathered_eq (times places : Nat) :
    gathered f times places = (fun places => places ||| f places)^[times] places := by
  rw [← iterated_eq]
  induction times generalizing places with
  | zero => rfl
  | succ times ih => rw [gathered, iterated, ih]

theorem Carries.iterate (hf : Carries last f R) (hR : ∀ {i j}, i ≤ last → R i j → j ≤ last) (times : Nat) :
    Carries last f^[times] (Power R times) := by
  induction times with
  | zero => exact carries_id
  | succ times ih =>
    rw [Function.iterate_succ]
    exact hf.comp hR ih

/-- Steps of which some may stay where they are. -/
theorem power_eq_or_iff : Power (fun i j => i = j ∨ R i j) count i j ↔
    ∃ few ≤ count, Power R few i j := by
  induction count generalizing i with
  | zero => simp [Power]
  | succ count ih =>
    simp only [Power, ih]
    constructor
    · rintro ⟨k, rfl | hstep, few, hfew, hpower⟩
      · exact ⟨few, by omega, hpower⟩
      · exact ⟨few + 1, by omega, k, hstep, hpower⟩
    · rintro ⟨few, hfew, hpower⟩
      cases few with
      | zero => exact ⟨i, .inl rfl, 0, Nat.zero_le _, hpower⟩
      | succ few =>
        obtain ⟨k, hstep, hpower⟩ := hpower
        exact ⟨k, .inr hstep, few, by omega, hpower⟩

theorem Carries.gathered (hf : Carries last f R) (hR : ∀ {i j}, i ≤ last → R i j → j ≤ last)
    (times : Nat) :
    Carries last (gathered f times) fun i j => ∃ few ≤ times, Power R few i j := by
  have hkeep : ∀ {i j}, i ≤ last → i = j ∨ R i j → j ≤ last := by
    rintro i j hi (rfl | hij)
    · exact hi
    · exact hR hi hij
  have hpower := ((carries_id.or hf).iterate hkeep times).congr fun _ _ _ => power_eq_or_iff
  intro places hplaces j
  rw [gathered_eq]
  exact hpower places hplaces j

theorem Power.le (hR : ∀ {i j}, i ≤ last → R i j → j ≤ last) (hi : i ≤ last)
    (h : Power R count i j) : j ≤ last := by
  induction count generalizing i with
  | zero => exact h ▸ hi
  | succ count ih =>
    obtain ⟨k, hstep, hrest⟩ := h
    exact ih (hR hi hstep) hrest

/-! ## Expressions laid over a text -/

theorem testBit_bitsOf (bits : List Bool) (i : Nat) :
    (bitsOf bits).testBit i = bits[i]?.getD false := by
  induction bits generalizing i with
  | nil => simp [bitsOf]
  | cons b bits ih =>
    cases i with
    | zero => cases b <;> simp [bitsOf, Nat.testBit_zero]
    | succ i =>
      have hlt := b.toNat_lt
      have hhalf : (2 * bitsOf bits + b.toNat) / 2 = bitsOf bits := by omega
      rw [bitsOf, Nat.testBit_succ, hhalf, ih, List.getElem?_cons_succ]

/-- A set of characters is laid over a text where its characters stand. -/
theorem testBit_one_iff {set : RangeTable} :
    (bitsOf (text.map set.contains)).testBit i = true ↔
      ∃ before c after, text = before ++ c :: after ∧ before.length = i ∧
        set.contains c = true := by
  rw [testBit_bitsOf]
  constructor
  · intro h
    cases hi : text[i]? with
    | none => simp [hi] at h
    | some c =>
      obtain ⟨hlt, hc⟩ := List.getElem?_eq_some_iff.1 hi
      refine ⟨text.take i, c, text.drop (i + 1), ?_, by simp [Nat.le_of_lt hlt], ?_⟩
      · rw [← hc, ← List.drop_eq_getElem_cons hlt, List.take_append_drop]
      · simpa [hi] using h
  · rintro ⟨before, c, after, rfl, rfl, hc⟩
    simp [hc]

theorem length_atPlaces (test : Option Char → Option Char → Bool) (before : Option Char)
    (text : List Char) : (atPlaces test before text).length = text.length + 1 := by
  induction text generalizing before with
  | nil => rfl
  | cons c text ih => simp [atPlaces, ih]

theorem getElem?_atPlaces (test : Option Char → Option Char → Bool) (left : Option Char)
    (before after : List Char) :
    (atPlaces test left (before ++ after))[before.length]? =
      some (test (before.getLast?.or left) after.head?) := by
  induction before generalizing left with
  | nil => cases after <;> rfl
  | cons c before ih =>
    have hlast : before.getLast?.or (some c) = ((c :: before).getLast?).or left := by
      rw [List.getLast?_cons]
      cases before.getLast? <;> rfl
    rw [List.cons_append, atPlaces, List.length_cons, List.getElem?_cons_succ, ih, hlast]

/-- A condition is laid over a text where it holds. -/
theorem testBit_here_iff {condition : Condition} :
    (bitsOf (atPlaces (fun left right => condition.holds left right) none text)).testBit i = true ↔
      ∃ before after, text = before ++ after ∧ before.length = i ∧
        condition.holds before.getLast? after.head? = true := by
  rw [testBit_bitsOf]
  constructor
  · intro h
    have hle : i ≤ text.length := by
      rcases Nat.lt_or_ge text.length i with hlt | hle
      · rw [List.getElem?_eq_none (by rw [length_atPlaces]; exact hlt)] at h
        cases h
      · exact hle
    have hlength : (text.take i).length = i := by simp [hle]
    have hplace := getElem?_atPlaces (fun left right => condition.holds left right) none
      (text.take i) (text.drop i)
    rw [List.take_append_drop, hlength] at hplace
    refine ⟨text.take i, text.drop i, (List.take_append_drop i text).symm, hlength, ?_⟩
    simpa [hplace] using h
  · rintro ⟨before, after, rfl, rfl, hcondition⟩
    simp [getElem?_atPlaces, hcondition]

/-- A relation that holds for some number spans what one for that number spans. -/
theorem spans_exists_iff {α : Type} {p : α → Prop} {fits : α → Fit} :
    Spans text (fun before cs after => ∃ a, p a ∧ fits a before cs after) i j ↔
      ∃ a, p a ∧ Spans text (fits a) i j := by
  constructor
  · rintro ⟨before, cs, after, rfl, rfl, rfl, a, ha, h⟩
    exact ⟨a, ha, before, cs, after, rfl, rfl, rfl, h⟩
  · rintro ⟨a, ha, before, cs, after, rfl, rfl, rfl, h⟩
    exact ⟨before, cs, after, rfl, rfl, rfl, a, ha, h⟩

theorem spans_or_iff :
    Spans text (fun before cs after => first before cs after ∨ second before cs after) i j ↔
      Spans text first i j ∨ Spans text second i j := by
  constructor
  · rintro ⟨before, cs, after, htext, hi, hj, h | h⟩
    · exact .inl ⟨before, cs, after, htext, hi, hj, h⟩
    · exact .inr ⟨before, cs, after, htext, hi, hj, h⟩
  · rintro (⟨before, cs, after, htext, hi, hj, h⟩ | ⟨before, cs, after, htext, hi, hj, h⟩)
    · exact ⟨before, cs, after, htext, hi, hj, .inl h⟩
    · exact ⟨before, cs, after, htext, hi, hj, .inr h⟩

/-- The rounds of a repetition as it is laid over a text are as many as it allows. -/
theorem spans_repetition_iff {least : Nat} (most : Option Nat) {inner : Regex}
    (hi : i ≤ text.length) :
    (∃ k, Power (Spans text inner.Matches) least i k ∧ ∃ few ≤ (match most with
        | some most => most - least
        | none => text.length + 1), Power (Spans text inner.Matches) few k j) ↔
      Spans text (Regex.repetition least most inner).Matches i j := by
  rw [Regex.Matches, spans_exists_iff]
  simp only [spans_times_iff hi]
  constructor
  · rintro ⟨k, hleast, few, hfew, hpower⟩
    refine ⟨least + few, ⟨Nat.le_add_right _ _, fun bound hbound => ?_⟩,
      power_add_iff.2 ⟨k, hleast, hpower⟩⟩
    obtain rfl := hbound
    simp only at hfew
    omega
  · rintro ⟨count, ⟨hle, hbound⟩, hpower⟩
    obtain ⟨more, rfl⟩ := Nat.exists_eq_add_of_le hle
    obtain ⟨k, hleast, hmore⟩ := power_add_iff.1 hpower
    refine ⟨k, hleast, ?_⟩
    cases most with
    | some most =>
      have hmost := hbound most rfl
      exact ⟨more, by simp only; omega, hmore⟩
    | none =>
      -- Rounds that stand still are left out, and each of the others takes a character.
      have hk := hleast.le (fun _ h => h.le.2) hi
      have hj := hmore.le (fun _ h => h.le.2) hk
      obtain ⟨-, few, hfew, hpower⟩ := hmore.short fun h => h.le.1
      exact ⟨few, by simp only; omega, hpower⟩

/-- **Matching finds the matches**: from every place, the places where a match may end. -/
theorem run_carries (regex : Regex) (text : List Char) :
    Carries text.length (regex.over text).run (Spans text regex.Matches) := by
  have hle : ∀ {fit i j}, i ≤ text.length → Spans text fit i j → j ≤ text.length :=
    fun _ h => h.le.2
  -- Sets of places are carried by relations, so a case says how the relations of the parts are
  -- put together, and nothing about single places.
  induction regex with
  | empty =>
    refine (carries_id.congr fun i j hi => ?_ : Carries text.length id _)
    rw [Regex.Matches, spans_nil_iff]
    exact ⟨fun h => ⟨h, h ▸ hi⟩, And.left⟩
  | one set =>
    intro places _ j
    rw [Regex.over, Overlay.run, Nat.testBit_shiftLeft, Bool.and_eq_true, Nat.testBit_and,
      Bool.and_eq_true, decide_eq_true_eq, testBit_one_iff]
    constructor
    · rintro ⟨hj, hplace, before, c, after, rfl, hlength, hc⟩
      refine ⟨_, hplace, before, [c], after, rfl, hlength, ?_, c, rfl, hc⟩
      simp only [List.length_append, List.length_singleton]
      omega
    · rintro ⟨i, hplace, before, cs, after, rfl, rfl, rfl, c, rfl, hc⟩
      have hback : (before ++ [c]).length - 1 = before.length := by simp
      refine ⟨by simp, by rwa [hback], before, c, after, rfl, hback.symm, hc⟩
  | here condition =>
    intro places _ j
    rw [Regex.over, Overlay.run, Nat.testBit_and, Bool.and_eq_true, testBit_here_iff]
    constructor
    · rintro ⟨hplace, before, after, rfl, rfl, hcondition⟩
      exact ⟨_, hplace, before, [], after, rfl, rfl, by simp, rfl, hcondition⟩
    · rintro ⟨i, hplace, before, cs, after, rfl, rfl, rfl, rfl, hcondition⟩
      refine ⟨by simpa using hplace, before, after, rfl, by simp, hcondition⟩
  | sequence first second ihfirst ihsecond =>
    exact (ihfirst.comp hle ihsecond).congr fun i j _ => spans_andThen_iff.symm
  | choice first second ihfirst ihsecond =>
    exact (ihfirst.or ihsecond).congr fun i j _ => spans_or_iff.symm
  | repetition least most inner ih =>
    have hrounds := ((ih.iterate hle least).comp (fun hi h => h.le hle hi)
      (ih.gathered hle _)).congr fun i j hi => spans_repetition_iff most hi
    intro places hplaces j
    change (gathered _ _ (iterated _ least places)).testBit j = true ↔ _
    rw [iterated_eq]
    exact hrounds places hplaces j
  | group _ inner ih => exact ih

/-- **An expression is found in a text** if and only if it matches a part of it. -/
theorem matchesIn_iff {regex : Regex} {text : String} :
    regex.matchesIn text = true ↔ ∃ before cs after, text.toList = before ++ (cs ++ after) ∧
      regex.Matches before.getLast? cs after.head? := by
  have hall : ∀ i, (Nat.pow 2 (text.toList.length + 1) - 1).testBit i = true ↔
      i ≤ text.toList.length := by
    intro i
    rw [Nat.pow_eq, Nat.testBit_two_pow_sub_one, decide_eq_true_eq, Nat.lt_succ_iff]
  have hrun := run_carries regex text.toList _ fun i hi => (hall i).1 hi
  rw [Regex.matchesIn, bne_iff_ne]
  constructor
  · intro hne
    obtain ⟨j, hj⟩ := Nat.exists_testBit_of_ne_zero hne
    obtain ⟨i, -, before, cs, after, htext, -, -, hmatch⟩ := (hrun j).1 hj
    exact ⟨before, cs, after, htext, hmatch⟩
  · rintro ⟨before, cs, after, htext, hmatch⟩ hzero
    have hspans : Spans text.toList regex.Matches _ _ :=
      ⟨before, cs, after, htext, rfl, rfl, hmatch⟩
    have hbit := (hrun _).2 ⟨_, (hall _).2 (Nat.le_trans hspans.le.1 hspans.le.2), hspans⟩
    rw [hzero, Nat.zero_testBit] at hbit
    cases hbit

end FieldChecks.Pattern
