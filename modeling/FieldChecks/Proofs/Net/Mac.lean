import FieldChecks.Checks.Format
import FieldChecks.Proofs.Text.Bytes

/-!
# MAC addresses — what is accepted, and where it is looked at

An address is a row of groups of hexadecimal digits with one and the same
separator between two of them (`IsAddress`). The reader does not look for
separators: it takes the number of groups from the number of bytes and
looks at every group in its own place. Where the bytes are one fewer than
the groups with their separators ask for, these places are within the
bytes, and cover them all (`isGrouped_iff`). So the reader answers on
every machine (`isAddressOn_decides`), and accepts exactly the addresses.
-/

namespace FieldChecks

namespace Mac

/-! ## Addresses -/

/-- **Groups of hexadecimal digits**, so many of a size, with a separator between two of them. -/
def IsGrouped (count size : Nat) (separator : Char) (cs : List Char) : Prop :=
  ∃ groups : List (List Char), groups.length = count ∧
    (∀ group ∈ groups, group.length = size ∧ ∀ c ∈ group, isHexDigit c = true) ∧
    cs = [separator].intercalate groups

/-- **An address**: one pair of digits for each octet, between colons or between dashes, or one
group of four for every two octets, between dots. -/
def IsAddress (cs : List Char) : Prop :=
  ∃ octets ∈ octetCounts, IsGrouped octets 2 ':' cs ∨ IsGrouped octets 2 '-' cs ∨
    IsGrouped (octets / 2) 4 '.' cs

variable {count size : Nat} {separator : Char} {cs : List Char}

/-- What holds of one group, and of one group more if it holds of the others, holds of all. -/
theorem IsGrouped.groupwise {motive : Nat → List Char → Prop}
    (one : ∀ group, group.length = size → (∀ c ∈ group, isHexDigit c = true) → motive 1 group)
    (more : ∀ count group rest, group.length = size → (∀ c ∈ group, isHexDigit c = true) →
      motive count rest → motive (count + 1) (group ++ separator :: rest))
    (h : IsGrouped count size separator cs) (hcount : 0 < count) : motive count cs := by
  obtain ⟨groups, rfl, hgroups, rfl⟩ := h
  induction groups with
  | nil => cases hcount
  | cons group groups ih =>
    obtain ⟨⟨hgroup, hdigits⟩, hrest⟩ := List.forall_mem_cons.1 hgroups
    cases groups with
    | nil =>
      rw [List.intercalate_singleton]
      exact one group hgroup hdigits
    | cons next groups =>
      rw [List.intercalate_cons_cons, List.append_assoc, List.singleton_append]
      exact more _ group _ hgroup hdigits (ih (Nat.succ_pos _) hrest)

theorem IsGrouped.length_eq (h : IsGrouped count size separator cs) (hcount : 0 < count) :
    cs.length + 1 = count * (size + 1) := by
  refine h.groupwise (motive := fun count cs => cs.length + 1 = count * (size + 1))
    (fun group hgroup _ => ?_) (fun count group rest hgroup _ hrest => ?_) hcount
  · rw [hgroup, Nat.one_mul]
  · rw [List.length_append, List.length_cons, Nat.add_mul, ← hrest, hgroup]
    omega

/-- The first separator stands behind the first group, and in front of the others. -/
theorem IsGrouped.exists_front (h : IsGrouped count size separator cs) (hcount : 1 < count) :
    ∃ front rest, cs = front ++ separator :: rest ∧ front.length = size ∧
      (∀ c ∈ front, isHexDigit c = true) ∧ IsGrouped (count - 1) size separator rest := by
  obtain ⟨groups, rfl, hgroups, rfl⟩ := h
  obtain _ | ⟨group, _ | ⟨next, groups⟩⟩ := groups
  · cases hcount
  · simp at hcount
  obtain ⟨⟨hgroup, hdigits⟩, hrest⟩ := List.forall_mem_cons.1 hgroups
  refine ⟨group, _, ?_, hgroup, hdigits, next :: groups, rfl, hrest, rfl⟩
  rw [List.intercalate_cons_cons, List.append_assoc, List.singleton_append]

/-- One group more stands in front of a separator. -/
theorem isGrouped_cons_iff {front rest : List Char} {c : Char} (hfront : front.length = size) :
    IsGrouped (count + 2) size separator (front ++ c :: rest) ↔
      (∀ d ∈ front, isHexDigit d = true) ∧ c = separator ∧
        IsGrouped (count + 1) size separator rest := by
  constructor
  · intro h
    obtain ⟨group, others, heq, hgroup, hdigits, hothers⟩ := h.exists_front (by omega)
    obtain ⟨rfl, htail⟩ := List.append_inj heq (hfront.trans hgroup.symm)
    obtain ⟨rfl, rfl⟩ := List.cons.inj htail
    exact ⟨hdigits, rfl, hothers⟩
  · rintro ⟨hdigits, rfl, groups, hcount, hgroups, rfl⟩
    cases groups with
    | nil => cases hcount
    | cons next groups =>
      refine ⟨front :: next :: groups, by simpa using hcount, ?_, by simp⟩
      exact List.forall_mem_cons.2 ⟨⟨hfront, hdigits⟩, hgroups⟩

/-- The separator stands behind the first group. -/
theorem IsGrouped.getElem?_size (h : IsGrouped count size separator cs) (hcount : 1 < count) :
    cs[size]? = some separator := by
  obtain ⟨front, rest, rfl, rfl, -, -⟩ := h.exists_front hcount
  simp

/-- In front of the first separator there are digits. -/
theorem IsGrouped.isHexDigit_of_lt {i : Nat} (h : IsGrouped count size separator cs)
    (hcount : 1 < count) (hi : i < size) : ∀ c ∈ cs[i]?, isHexDigit c = true := by
  obtain ⟨front, rest, rfl, rfl, hdigits, -⟩ := h.exists_front hcount
  rw [List.getElem?_append_left hi]
  exact fun c hc => hdigits c (List.mem_of_getElem? hc)

theorem octets_bounds : ∀ octets ∈ octetCounts, 6 ≤ octets ∧ 3 ≤ octets / 2 := by
  decide

/-- An address has fourteen characters at least. -/
theorem IsAddress.le_length (h : IsAddress cs) : 14 ≤ cs.length := by
  obtain ⟨octets, hoctets, h⟩ := h
  obtain ⟨hpairs, hquads⟩ := octets_bounds octets hoctets
  rcases h with h | h | h <;> have hlength := h.length_eq (by omega) <;> omega

/-- With a colon or a dash behind two characters, an address is made of pairs. -/
theorem isAddress_iff_pairs (hthird : cs[2]? = some separator)
    (hpair : separator = ':' ∨ separator = '-') :
    IsAddress cs ↔ ∃ octets ∈ octetCounts, IsGrouped octets 2 separator cs := by
  have hnotDigit : isHexDigit separator = false := by
    rcases hpair with rfl | rfl <;> decide
  constructor
  · rintro ⟨octets, hoctets, h⟩
    obtain ⟨hpairs, hquads⟩ := octets_bounds octets hoctets
    refine ⟨octets, hoctets, ?_⟩
    rcases h with h | h | h
    · obtain rfl := Option.some.inj ((h.getElem?_size (by omega)).symm.trans hthird)
      exact h
    · obtain rfl := Option.some.inj ((h.getElem?_size (by omega)).symm.trans hthird)
      exact h
    · have hdigit := h.isHexDigit_of_lt (i := 2) (by omega) (by decide) separator hthird
      exact absurd hdigit (by simp [hnotDigit])
  · rintro ⟨octets, hoctets, h⟩
    rcases hpair with rfl | rfl
    · exact ⟨octets, hoctets, .inl h⟩
    · exact ⟨octets, hoctets, .inr (.inl h)⟩

/-- With anything else there, it is made of groups of four. -/
theorem isAddress_iff_quads {c : Char} (hthird : cs[2]? = some c)
    (hpair : ¬ (c = ':' ∨ c = '-')) :
    IsAddress cs ↔ ∃ octets ∈ octetCounts, IsGrouped (octets / 2) 4 '.' cs := by
  constructor
  · rintro ⟨octets, hoctets, h⟩
    obtain ⟨hpairs, -⟩ := octets_bounds octets hoctets
    refine ⟨octets, hoctets, ?_⟩
    rcases h with h | h | h
    · have heq := Option.some.inj (hthird.symm.trans (h.getElem?_size (by omega)))
      exact absurd (.inl heq) hpair
    · have heq := Option.some.inj (hthird.symm.trans (h.getElem?_size (by omega)))
      exact absurd (.inr heq) hpair
    · exact h
  · rintro ⟨octets, hoctets, h⟩
    exact ⟨octets, hoctets, .inr (.inr h)⟩

/-! ## Groups in their places -/

/-- There are digits at a position, so many of them or up to the end. -/
def digitsIn (cs : List Char) (size position : Nat) : Bool :=
  ((cs.drop position).take size).all isHexDigit

/-- There is a group of digits at a position, and behind it the end or a separator. -/
def groupIn (cs : List Char) (size : Nat) (separator : Char) (position : Nat) : Bool :=
  digitsIn cs size position &&
    (position + size == cs.length || cs[position + size]? == some separator)

theorem groupIn_append {front rest : List Char} {position : Nat} :
    groupIn (front ++ rest) size separator (front.length + position) =
      groupIn rest size separator position := by
  have hend : (front.length + position + size == (front ++ rest).length) =
      (position + size == rest.length) := by
    rw [Bool.eq_iff_iff, beq_iff_eq, beq_iff_eq, List.length_append]
    omega
  have hnext : (front ++ rest)[front.length + position + size]? = rest[position + size]? := by
    rw [Nat.add_assoc, List.getElem?_append_right (Nat.le_add_right _ _), Nat.add_sub_cancel_left]
  rw [groupIn, groupIn, digitsIn, digitsIn, List.drop_append,
    List.drop_eq_nil_of_le (Nat.le_add_right _ _), List.nil_append, Nat.add_sub_cancel_left, hend,
    hnext]

/-- **Groups are looked for in their places**: with so many characters as the groups and their
separators have, there is nothing else. -/
theorem isGrouped_iff (hlength : cs.length + 1 = count * (size + 1)) :
    IsGrouped count size separator cs ↔
      ∀ i < count, groupIn cs size separator (i * (size + 1)) = true := by
  -- the induction takes the first group off, and the places behind it move to the front
  induction count generalizing cs with
  | zero => simp at hlength
  | succ count ih =>
    cases count with
    | zero =>
      obtain rfl : size = cs.length := by omega
      constructor
      · rintro ⟨groups, hcount, hgroups, rfl⟩ i hi
        obtain ⟨group, rfl⟩ := List.length_eq_one_iff.1 hcount
        obtain rfl : i = 0 := by omega
        have hdigits := (hgroups group (by simp)).2
        simpa [groupIn, digitsIn] using hdigits
      · intro h
        have hdigits := h 0 Nat.one_pos
        refine ⟨[cs], rfl, ?_, by simp⟩
        simpa [groupIn, digitsIn] using hdigits
    | succ count =>
      have hsize : size < cs.length := by
        have hmore : 0 < (count + 1) * (size + 1) := Nat.mul_pos count.succ_pos size.succ_pos
        rw [Nat.add_mul] at hlength
        omega
      obtain ⟨front, c, rest, rfl, hfront⟩ : ∃ front c rest, cs = front ++ c :: rest ∧
          front.length = size :=
        ⟨cs.take size, cs[size], cs.drop (size + 1), by simp, by simp [Nat.le_of_lt hsize]⟩
      have hrest : rest.length + 1 = (count + 1) * (size + 1) := by
        rw [List.length_append, List.length_cons, Nat.add_mul (count + 1)] at hlength
        omega
      have hfirst : groupIn (front ++ c :: rest) size separator 0 = true ↔
          (∀ d ∈ front, isHexDigit d = true) ∧ c = separator := by
        simp [groupIn, digitsIn, ← hfront]
      have hshift : ∀ i, groupIn (front ++ c :: rest) size separator ((i + 1) * (size + 1)) =
          groupIn rest size separator (i * (size + 1)) := by
        intro i
        have hplace : (i + 1) * (size + 1) = (front ++ [c]).length + i * (size + 1) := by
          rw [Nat.add_mul, List.length_append, hfront, List.length_singleton]
          omega
        rw [hplace, List.append_cons, groupIn_append]
      rw [isGrouped_cons_iff hfront, ih hrest, ← and_assoc, ← hfirst]
      simp only [Nat.forall_lt_succ_left (n := count + 1), Nat.zero_mul, hshift]

/-! ## Answers -/

section Answer

variable {m : Type → Type} [Monad m]

/-- An answer is given, and it is yes where something holds. -/
def Decides (answer : m Bool) (p : Prop) : Prop :=
  ∃ verdict : Bool, answer = pure verdict ∧ (verdict = true ↔ p)

theorem decides_pure (verdict : Bool) : Decides (pure verdict : m Bool) (verdict = true) :=
  ⟨verdict, rfl, Iff.rfl⟩

theorem Decides.of_not {p : Prop} (h : ¬ p) : Decides (pure false : m Bool) p :=
  ⟨false, rfl, by simpa using h⟩

theorem Decides.congr {answer : m Bool} {p q : Prop} (h : Decides answer p) (hiff : p ↔ q) :
    Decides answer q := by
  obtain ⟨verdict, hanswer, hverdict⟩ := h
  exact ⟨verdict, hanswer, hverdict.trans hiff⟩

theorem Decides.allM [LawfulMonad m] {α : Type} {holds : α → m Bool} {p : α → Prop} {as : List α}
    (h : ∀ a ∈ as, Decides (holds a) (p a)) : Decides (as.allM holds) (∀ a ∈ as, p a) := by
  induction as with
  | nil => exact ⟨true, rfl, by simp⟩
  | cons a as ih =>
    obtain ⟨hfirst, hrest⟩ := List.forall_mem_cons.1 h
    obtain ⟨verdict, hanswer, hverdict⟩ := hfirst
    rw [List.allM, hanswer, pure_bind, List.forall_mem_cons, ← hverdict]
    cases verdict with
    | true => exact (ih hrest).congr (by simp)
    | false => exact .of_not (by simp)

end Answer

/-! ## The reader -/

section Machine

variable {m : Type → Type} [Monad m] [LawfulMonad m] (machine : Machine m) {bytes : List UInt8}
variable {position : Nat}

theorem charAt_eq (h : position < bytes.length) :
    charAt machine bytes position = pure (byteChar bytes[position]) := by
  rw [charAt, machine.byteAt_eq bytes position h, pure_bind]
  rfl

theorem pairAt_eq (h : position + 2 ≤ bytes.length) :
    pairAt machine bytes position = pure (digitsIn (bytes.map byteChar) 2 position) := by
  have hfirst : position < bytes.length := by omega
  have hsecond : position + 1 < bytes.length := by omega
  have hdigits : digitsIn (bytes.map byteChar) 2 position =
      (isHexDigit (byteChar bytes[position]) && isHexDigit (byteChar bytes[position + 1])) := by
    rw [digitsIn, ← List.map_drop, List.drop_eq_getElem_cons hfirst,
      List.drop_eq_getElem_cons hsecond]
    simp only [List.map_cons, List.take_succ_cons, List.take_zero, List.all_cons, List.all_nil,
      Bool.and_true]
  rw [pairAt, charAt_eq machine hfirst, charAt_eq machine hsecond, pure_bind, pure_bind, hdigits]
  cases isHexDigit (byteChar bytes[position]) <;> rfl

theorem quadAt_eq (h : position + 4 ≤ bytes.length) :
    quadAt machine bytes position = pure (digitsIn (bytes.map byteChar) 4 position) := by
  have hquad : 4 ≤ (bytes.drop position).length := by
    rw [List.length_drop]
    omega
  rw [quadAt, machine.firstBytes_eq _ 4 hquad, pure_bind, digitsIn, ← List.map_drop,
    ← List.map_take, List.all_map]
  rfl

variable {digitsAt : Nat → m Bool}

theorem groupAt_eq (h : position + size ≤ bytes.length)
    (hdigits : digitsAt position = pure (digitsIn (bytes.map byteChar) size position)) :
    groupAt machine bytes digitsAt size separator position =
      pure (groupIn (bytes.map byteChar) size separator position) := by
  rw [groupAt, hdigits, pure_bind, groupIn, List.length_map]
  cases digitsIn (bytes.map byteChar) size position with
  | false => rfl
  | true =>
    by_cases hend : position + size = bytes.length
    · simp [hend]
    · have hnext : position + size < bytes.length := by omega
      rw [beq_false_of_ne hend]
      simp [charAt_eq machine hnext, List.getElem?_eq_getElem hnext]

/-- Groups that are all found in their places, as many as fill the bytes. -/
theorem groups_decides (hlength : bytes.length + 1 = count * (size + 1))
    (hdigits : ∀ position, position + size ≤ bytes.length →
      digitsAt position = pure (digitsIn (bytes.map byteChar) size position)) :
    Decides
      ((List.range count).allM fun i =>
        groupAt machine bytes digitsAt size separator (i * (size + 1)))
      (IsGrouped count size separator (bytes.map byteChar)) := by
  rw [isGrouped_iff (by rw [List.length_map, hlength])]
  simp only [← List.mem_range]
  refine Decides.allM fun i hi => ?_
  have hplace : (i + 1) * (size + 1) ≤ count * (size + 1) :=
    Nat.mul_le_mul_right _ (List.mem_range.1 hi)
  rw [← hlength, Nat.add_mul] at hplace
  rw [groupAt_eq machine (by omega) (hdigits _ (by omega))]
  exact decides_pure _

/-- **As many groups as there is room for**, where every number of octets makes whole groups. -/
theorem areGroups_decides {octetsPerGroup : Nat} (hpos : 0 < octetsPerGroup)
    (hwhole : ∀ octets ∈ octetCounts, octetsPerGroup ∣ octets)
    (hdigits : ∀ position, position + 2 * octetsPerGroup ≤ bytes.length →
      digitsAt position = pure (digitsIn (bytes.map byteChar) (2 * octetsPerGroup) position)) :
    Decides (areGroups machine bytes octetsPerGroup digitsAt separator)
      (∃ octets ∈ octetCounts,
        IsGrouped (octets / octetsPerGroup) (2 * octetsPerGroup) separator
          (bytes.map byteChar)) := by
  have hoctetsPos : ∀ octets ∈ octetCounts, 0 < octets := by decide
  have hroom : ∀ octets ∈ octetCounts,
      IsGrouped (octets / octetsPerGroup) (2 * octetsPerGroup) separator (bytes.map byteChar) →
      bytes.length + 1 = octets / octetsPerGroup * (2 * octetsPerGroup + 1) := by
    intro octets hoctets h
    have hle := Nat.le_of_dvd (hoctetsPos octets hoctets) (hwhole octets hoctets)
    rw [← h.length_eq (Nat.div_pos hle hpos), List.length_map]
  by_cases hmod : (bytes.length + 1) % (2 * octetsPerGroup + 1) = 0
  · obtain ⟨count, hlength⟩ := Nat.dvd_of_mod_eq_zero hmod
    rw [Nat.mul_comm] at hlength
    have hquotient : octetsPerGroup * (bytes.length + 1) / (2 * octetsPerGroup + 1) =
        octetsPerGroup * count := by
      rw [hlength, ← Nat.mul_assoc, Nat.mul_div_cancel _ (Nat.succ_pos _)]
    -- whichever number of octets is asked for, there is room for this one only
    have honly : ∀ octets ∈ octetCounts,
        IsGrouped (octets / octetsPerGroup) (2 * octetsPerGroup) separator (bytes.map byteChar) →
        octets = octetsPerGroup * count := by
      intro octets hoctets h
      have heq := Nat.eq_of_mul_eq_mul_right (Nat.succ_pos _)
        (hlength.symm.trans (hroom octets hoctets h))
      rw [heq, Nat.mul_div_cancel' (hwhole octets hoctets)]
    by_cases hmem : octetsPerGroup * count ∈ octetCounts
    · have hcontains : octetCounts.contains (octetsPerGroup * count) = true := by simpa using hmem
      simp only [areGroups, hquotient, hmod, hcontains, Nat.mul_div_cancel_left count hpos]
      refine (groups_decides machine hlength hdigits).congr ⟨fun h => ⟨_, hmem, ?_⟩, ?_⟩
      · rwa [Nat.mul_div_cancel_left count hpos]
      · rintro ⟨octets, hoctets, h⟩
        rwa [honly octets hoctets h, Nat.mul_div_cancel_left count hpos] at h
    · have hcontains : octetCounts.contains (octetsPerGroup * count) = false := by simpa using hmem
      simp only [areGroups, hquotient, hmod, hcontains]
      refine .of_not ?_
      rintro ⟨octets, hoctets, h⟩
      exact hmem (honly octets hoctets h ▸ hoctets)
  · have hne : ((bytes.length + 1) % (2 * octetsPerGroup + 1) != 0) = true := by simpa using hmod
    simp only [areGroups, hne, if_true]
    refine .of_not ?_
    rintro ⟨octets, hoctets, h⟩
    rw [hroom octets hoctets h, Nat.mul_mod_left] at hmod
    exact hmod rfl

/-- **The reader answers on every machine**, and accepts the addresses. -/
theorem isAddressOn_decides (bytes : List UInt8) :
    Decides (isAddressOn machine bytes) (IsAddress (bytes.map byteChar)) := by
  have hpairs : ∀ separator, Decides (areGroups machine bytes 1 (pairAt machine bytes) separator)
      (∃ octets ∈ octetCounts, IsGrouped octets 2 separator (bytes.map byteChar)) := by
    intro separator
    simpa using areGroups_decides machine Nat.one_pos (by simp) fun _ h => pairAt_eq machine h
  have hquads : Decides (areGroups machine bytes 2 (quadAt machine bytes) '.')
      (∃ octets ∈ octetCounts, IsGrouped (octets / 2) 4 '.' (bytes.map byteChar)) :=
    areGroups_decides machine Nat.two_pos (by decide) fun _ h => quadAt_eq machine h
  by_cases hlength : bytes.length < 14
  · simp only [isAddressOn, hlength, if_true]
    refine .of_not fun h => ?_
    have hle := h.le_length
    rw [List.length_map] at hle
    omega
  have hthird : 2 < bytes.length := by omega
  have hfifth : 4 < bytes.length := by omega
  simp only [isAddressOn, hlength, if_false, charAt_eq machine hthird, charAt_eq machine hfifth,
    pure_bind]
  have hat : ∀ i, (h : i < bytes.length) →
      (bytes.map byteChar)[i]? = some (byteChar bytes[i]) := by
    intro i h
    rw [List.getElem?_map, List.getElem?_eq_getElem h, Option.map_some]
  by_cases hpair : byteChar bytes[2] = ':' ∨ byteChar bytes[2] = '-'
  · simp only [Bool.or_eq_true, beq_iff_eq, hpair, if_true]
    exact (hpairs _).congr (isAddress_iff_pairs (hat 2 hthird) hpair).symm
  simp only [Bool.or_eq_true, beq_iff_eq, hpair, if_false]
  have hiff := isAddress_iff_quads (hat 2 hthird) hpair
  by_cases hdot : byteChar bytes[4] = '.'
  · simp only [hdot, if_true]
    exact hquads.congr hiff.symm
  · simp only [hdot, if_false]
    refine .of_not fun h => hdot ?_
    obtain ⟨octets, hoctets, h⟩ := hiff.1 h
    obtain ⟨-, hmany⟩ := octets_bounds octets hoctets
    exact Option.some.inj ((hat 4 hfifth).symm.trans (h.getElem?_size (by omega)))

end Machine

/-! ## What addresses look like -/

/-- Characters are digits and one separator, as many as so many groups have, and at both ends there
are digits. -/
structure Outline (count size : Nat) (separator : Char) (cs : List Char) : Prop where
  digit_or_separator : ∀ c ∈ cs, isHexDigit c = true ∨ c = separator
  digits : cs.countP isHexDigit = count * size
  separators : cs.count separator + 1 = count
  first : ∃ c ∈ cs.head?, isHexDigit c = true
  last : ∃ c ∈ cs.getLast?, isHexDigit c = true

theorem IsGrouped.outline (h : IsGrouped count size separator cs) (hcount : 0 < count)
    (hsize : 0 < size) (hseparator : isHexDigit separator = false) :
    Outline count size separator cs := by
  have hdigits : ∀ group : List Char, group.length = size →
      (∀ c ∈ group, isHexDigit c = true) →
      Outline 1 size separator group := by
    intro group hgroup hdigits
    have hne : group ≠ [] := List.ne_nil_of_length_pos (hgroup ▸ hsize)
    refine ⟨fun c hc => .inl (hdigits c hc), ?_, ?_, ?_, ?_⟩
    · rw [List.countP_eq_length.2 hdigits, hgroup, Nat.one_mul]
    · rw [List.count_eq_zero.2 fun hmem => by simp [hdigits _ hmem] at hseparator]
    · exact ⟨group.head hne, List.head?_eq_some_head hne, hdigits _ (List.head_mem hne)⟩
    · exact ⟨group.getLast hne, List.getLast?_eq_some_getLast hne,
        hdigits _ (List.getLast_mem hne)⟩
  refine h.groupwise (motive := fun count cs => Outline count size separator cs) hdigits
    (fun count group rest hgroup hall hrest => ?_) hcount
  have hfront := hdigits group hgroup hall
  refine ⟨?_, ?_, ?_, ?_, ?_⟩
  · intro c hc
    rcases List.mem_append.1 hc with hc | hc
    · exact hfront.digit_or_separator c hc
    rcases List.mem_cons.1 hc with rfl | hc
    · exact .inr rfl
    · exact hrest.digit_or_separator c hc
  · rw [List.countP_append, List.countP_cons_of_neg (by simp [hseparator]), hfront.digits,
      hrest.digits]
    rw [Nat.add_mul, Nat.add_comm]
  · have hnone := hfront.separators
    have hothers := hrest.separators
    rw [List.count_append, List.count_cons_self]
    omega
  · obtain ⟨c, hc, hdigit⟩ := hfront.first
    exact ⟨c, by rw [List.head?_append, Option.mem_def.1 hc]; rfl, hdigit⟩
  · obtain ⟨c, hc, hdigit⟩ := hrest.last
    exact ⟨c, by rw [List.getLast?_append, List.getLast?_cons, Option.mem_def.1 hc]; rfl, hdigit⟩

/-! ## Letter case -/

/-- A separator has no letter case. -/
theorem asciiLower_eq_separator_iff {c : Char} (h : separator ∈ [':', '-', '.']) :
    asciiLower c = separator ↔ c = separator := by
  by_cases hc : c.toNat < 128
  · simp only [List.mem_cons, List.not_mem_nil, or_false] at h
    refine @forall_ascii (fun c => asciiLower c = separator ↔ c = separator) ?_ c hc
    rcases h with rfl | rfl | rfl <;> decide
  · rw [asciiLower_of_not_ascii (Nat.not_lt.1 hc)]

theorem groupIn_map_asciiLower (h : separator ∈ [':', '-', '.']) (position : Nat) :
    groupIn (cs.map asciiLower) size separator position =
      groupIn cs size separator position := by
  have hdigits : isHexDigit ∘ asciiLower = isHexDigit := funext isHexDigit_asciiLower
  have hnext : ((cs.map asciiLower)[position + size]? == some separator) =
      (cs[position + size]? == some separator) := by
    rw [List.getElem?_map, Bool.eq_iff_iff, beq_iff_eq, beq_iff_eq]
    cases cs[position + size]? with
    | none => simp
    | some c => simpa using asciiLower_eq_separator_iff h
  rw [groupIn, groupIn, digitsIn, digitsIn, ← List.map_drop, ← List.map_take, List.all_map, hdigits,
    hnext, List.length_map]

theorem isGrouped_map_asciiLower_iff (h : separator ∈ [':', '-', '.']) (hcount : 0 < count) :
    IsGrouped count size separator (cs.map asciiLower) ↔ IsGrouped count size separator cs := by
  by_cases hlength : cs.length + 1 = count * (size + 1)
  · rw [isGrouped_iff hlength, isGrouped_iff (by rwa [List.length_map])]
    simp only [groupIn_map_asciiLower h]
  · constructor
    · intro hgrouped
      have hmapped := hgrouped.length_eq hcount
      rw [List.length_map] at hmapped
      exact absurd hmapped hlength
    · exact fun hgrouped => absurd (hgrouped.length_eq hcount) hlength

/-- **Addresses ignore letter case.** -/
theorem isAddress_map_asciiLower_iff : IsAddress (cs.map asciiLower) ↔ IsAddress cs := by
  refine exists_congr fun octets => and_congr_right fun hoctets => ?_
  obtain ⟨hpairs, hquads⟩ := octets_bounds octets hoctets
  rw [isGrouped_map_asciiLower_iff (by simp) (by omega),
    isGrouped_map_asciiLower_iff (by simp) (by omega),
    isGrouped_map_asciiLower_iff (by simp) (by omega)]

/-! ## Texts -/

theorem Outline.ascii (h : Outline count size separator cs) (hseparator : separator.toNat < 128) :
    ∀ c ∈ cs, c.toNat < 128 := by
  intro c hc
  rcases h.digit_or_separator c hc with hdigit | rfl
  · exact ascii_of_isHexDigit hdigit
  · exact hseparator

/-- **An address has one separator** everywhere, none at its ends, and its digits. -/
theorem IsAddress.exists_outline (h : IsAddress cs) :
    ∃ octets ∈ octetCounts, Outline octets 2 ':' cs ∨ Outline octets 2 '-' cs ∨
      Outline (octets / 2) 4 '.' cs := by
  obtain ⟨octets, hoctets, h⟩ := h
  obtain ⟨hpairs, hquads⟩ := octets_bounds octets hoctets
  refine ⟨octets, hoctets, ?_⟩
  rcases h with h | h | h
  · exact .inl (h.outline (by omega) (by decide) (by decide))
  · exact .inr (.inl (h.outline (by omega) (by decide) (by decide)))
  · exact .inr (.inr (h.outline (by omega) (by decide) (by decide)))

theorem IsAddress.ascii (h : IsAddress cs) : ∀ c ∈ cs, c.toNat < 128 := by
  obtain ⟨octets, -, h | h | h⟩ := h.exists_outline <;> exact h.ascii (by decide)

/-- Whether a text is an address shows in its bytes. -/
theorem isAddress_bytes_iff :
    IsAddress ((cs.flatMap String.utf8EncodeChar).map byteChar) ↔ IsAddress cs := by
  constructor
  · intro h
    have hbytes : ∀ b ∈ cs.flatMap String.utf8EncodeChar, b.toNat < 128 := by
      intro b hb
      have hascii := h.ascii (byteChar b) (List.mem_map_of_mem hb)
      rwa [toNat_byteChar] at hascii
    rwa [map_byteChar (ascii_of_bytes hbytes)] at h
  · intro h
    rwa [map_byteChar h.ascii]

theorem isAddress_eq_true_iff {bytes : List UInt8} :
    isAddress bytes = true ↔ IsAddress (bytes.map byteChar) := by
  obtain ⟨verdict, hanswer, hverdict⟩ := isAddressOn_decides .wrapping bytes
  rw [isAddress, hanswer]
  exact hverdict

/-- **MAC addresses are accepted exactly.** Every byte that is looked at is there, and accepted are
the addresses of six, eight or twenty octets. So what is accepted has one separator, between groups
only, and another letter case makes no difference. The check accepts the texts that are
addresses. -/
theorem mac_exact :
    (∀ bytes, isAddressOn .checked bytes = some (isAddress bytes)) ∧
    (∀ bytes, isAddress bytes = true ↔ IsAddress (bytes.map byteChar)) ∧
    (∀ bytes, isAddress bytes = true →
      ∃ octets ∈ octetCounts, Outline octets 2 ':' (bytes.map byteChar) ∨
        Outline octets 2 '-' (bytes.map byteChar) ∨
        Outline (octets / 2) 4 '.' (bytes.map byteChar)) ∧
    (∀ bytes other : List UInt8,
      (other.map byteChar).map asciiLower = (bytes.map byteChar).map asciiLower →
      isAddress other = isAddress bytes) ∧
    ∀ value, Format.mac value = .ok () ↔
      ∃ text, value.text = .ok text ∧ IsAddress text.toList := by
  refine ⟨fun bytes => ?_, fun bytes => isAddress_eq_true_iff, fun bytes h => ?_,
    fun bytes other h => ?_, fun value => ?_⟩
  · obtain ⟨verdict, hanswer, hverdict⟩ := isAddressOn_decides .checked bytes
    rw [hanswer, Bool.eq_iff_iff.2 (hverdict.trans isAddress_eq_true_iff.symm)]
    rfl
  · exact (isAddress_eq_true_iff.1 h).exists_outline
  · rw [Bool.eq_iff_iff, isAddress_eq_true_iff, isAddress_eq_true_iff,
      ← isAddress_map_asciiLower_iff, h, isAddress_map_asciiLower_iff]
  · rw [Format.mac, Format.textCheck_eq_ok_iff]
    simp only [isAddress_eq_true_iff, isAddress_bytes_iff]

theorem mac_exact_of_dots :
    IsAddress "0123.4567.89Ab".toList ∧ ¬ IsAddress "0123.4567:89Ab".toList := by
  obtain ⟨-, -, -, -, haccepts⟩ := mac_exact
  constructor
  · obtain ⟨text, htext, h⟩ := (haccepts (.string "0123.4567.89Ab")).1 rfl
    cases htext
    exact h
  · intro h
    have hok : Format.mac (.string "0123.4567:89Ab") = .ok () := (haccepts _).2 ⟨_, rfl, h⟩
    cases hok

end Mac

end FieldChecks
