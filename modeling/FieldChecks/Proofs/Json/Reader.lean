import FieldChecks.Json.Reader
import FieldChecks.Proofs.Json.Skip
import FieldChecks.Proofs.Result

/-!
# Reading JSON by type — readers take what the grammar says

A reader takes a text for something if it does so wherever the text
stands: behind blanks, and in front of anything that does not go on with
a number (`Takes`). Each reader takes the texts of its type. A list and
an object are read entry by entry, so what is left of a bracket is put as
the readers come to it: every entry but the first behind a comma
(`Remaining`).
-/

namespace FieldChecks.Json

namespace Reader

variable {α β : Type} {cs rest blanks : List Char} {c : Char}

/-- **The reader takes the text** for something and leaves what follows it. -/
def Takes (reader : Reader α) (cs : List Char) (a : α) : Prop :=
  ∀ blanks rest, Blanks blanks → Delimits rest →
    reader (blanks ++ (cs ++ rest)) = .ok (a, rest)

theorem Takes.eq {reader : Reader α} {a : α} (h : Takes reader cs a) (hrest : Delimits rest) :
    reader (cs ++ rest) = .ok (a, rest) :=
  h [] rest nofun hrest

/-! ## Steps -/

theorem dropWhile_blanks (hblanks : Blanks blanks) (hc : isJsonBlank c = false) :
    (blanks ++ c :: cs).dropWhile isJsonBlank = c :: cs := by
  rw [List.dropWhile_append_of_pos hblanks, List.dropWhile_cons_of_neg (by simp [hc])]

theorem peek_eq (hblanks : Blanks blanks) (hc : isJsonBlank c = false) :
    peek (blanks ++ c :: cs) = .ok (some c, c :: cs) := by
  simp [peek, dropWhile_blanks hblanks hc]

theorem peek_cons (hc : isJsonBlank c = false) : peek (c :: cs) = .ok (some c, c :: cs) := by
  simp [peek, hc]

theorem get_eq : (get : Reader (List Char)) cs = .ok (cs, cs) :=
  rfl

/-- What is made of what a reader takes. -/
theorem Takes.map {reader : Reader α} {a : α} (f : α → β) (h : Takes reader cs a) :
    Takes (reader >>= fun found => pure (f found)) cs (f a) :=
  fun _ _ hblanks hrest => bind_eq (h _ _ hblanks hrest)

theorem drop_eq : drop (c :: cs) = .ok ((), cs) :=
  rfl

theorem stringBody_eq {text : String} (h : StringLiteral.Spells cs text.toList) :
    stringBody (cs ++ '"' :: rest) = .ok (text, rest) := by
  simp [stringBody, StringLiteral.read_of_spells h, Except.map]

theorem colon_eq (hblanks : Blanks blanks) : colon (blanks ++ ':' :: cs) = .ok ((), cs) := by
  rw [colon, bind_eq (peek_eq hblanks (by decide))]
  rfl

theorem endList_eq (hblanks : Blanks blanks) : endList (blanks ++ ']' :: cs) = .ok ((), cs) := by
  rw [endList, bind_eq (peek_eq hblanks (by decide))]
  rfl

theorem endObject_eq : endObject ('\x7d' :: cs) = .ok ((), cs) := by
  rw [endObject, bind_eq (peek_cons (by decide))]
  rfl

/-! ## Values without brackets -/

theorem takes_string {text : String} (h : IsString cs text) : Takes string cs text := by
  intro blanks rest hblanks _
  cases h with
  | quoted hspells =>
    rw [string, List.cons_append, bind_eq (peek_eq hblanks (by decide)), List.append_assoc]
    change (drop >>= fun _ => stringBody) _ = _
    rw [bind_eq drop_eq]
    exact stringBody_eq hspells

theorem takes_bool (flag : Bool) : Takes bool (boolChars flag) flag := by
  intro blanks rest hblanks _
  cases flag <;>
  · simp only [boolChars, if_true, Bool.false_eq_true, if_false, List.cons_append]
    rw [bool, bind_eq (peek_eq hblanks (by decide))]
    rfl

/-- What starts otherwise than `null` is read for itself. -/
theorem Takes.optional {reader : Reader α} {a : α} (h : Takes reader (c :: cs) a)
    (hblank : isJsonBlank c = false) (hc : c ≠ 'n') :
    Takes (optional reader) (c :: cs) (some a) := by
  intro blanks rest hblanks hrest
  rw [Reader.optional, List.cons_append, bind_eq (peek_eq hblanks hblank)]
  refine (congrFun (g := reader >>= fun a => pure (some a)) ?_ _).trans (bind_eq (h.eq hrest))
  split
  · rename_i hsome
    exact absurd (Option.some.inj hsome) hc
  · rfl

theorem takes_ignored (h : IsValue cs) : Takes ignored cs () := by
  intro blanks rest hblanks hrest
  simp [ignored, skip_value hblanks h hrest, Except.map]

/-- A word is read from a string. -/
theorem takes_word {words : List String} {found : String} (h : IsString cs found)
    (hfound : found ∈ words) : Takes (word words) cs found := by
  intro blanks rest hblanks _
  cases h with
  | quoted hspells =>
    rw [word, List.cons_append, bind_eq (peek_eq hblanks (by decide)), List.append_assoc]
    change (drop >>= fun _ => stringBody >>= _) _ = _
    rw [bind_eq drop_eq, List.singleton_append, bind_eq (stringBody_eq hspells),
      if_pos (List.contains_iff_mem.2 hfound)]
    rfl

end Reader

/-! ## Brackets -/

/-- What stands in front of an entry: blanks, and a comma unless the entry is the first one. -/
inductive Leads : (first : Bool) → List Char → Prop
  | first {blanks : List Char} (h : Blanks blanks) : Leads true blanks
  | later {before after : List Char} (hbefore : Blanks before) (hafter : Blanks after) :
      Leads false (before ++ ',' :: after)

/-- **What is left of a bracket**, up to its end, and the entries in it. -/
inductive Remaining : (first : Bool) → List Char → List (List Char) → Prop
  | nil {first : Bool} {blanks : List Char} (h : Blanks blanks) : Remaining first blanks []
  | cons {first : Bool} {lead item more : List Char} {items : List (List Char)}
      (hlead : Leads first lead) (h : Remaining false more items) :
      Remaining first (lead ++ (item ++ more)) (item :: items)

theorem Remaining.delimits {cs : List Char} {items : List (List Char)}
    (h : Remaining false cs items) (bracket : Bracket) (rest : List Char) :
    Delimits (cs ++ bracket.closing :: rest) := by
  cases h with
  | nil hblanks => exact (delimits_closing bracket rest).of_blank_append hblanks
  | cons hlead _ =>
    cases hlead with
    | later hbefore _ =>
      simp only [List.append_assoc, List.cons_append]
      exact (delimits_comma _).of_blank_append hbefore

/-- A comma, with blanks in front of it, makes the first entry one of the later ones. -/
theorem Remaining.behind_comma {after cs : List Char} {item : List Char} {items : List (List Char)}
    (hafter : Blanks after) (h : Remaining true cs (item :: items)) :
    Remaining false (after ++ ',' :: cs) (item :: items) := by
  cases h with
  | cons hlead hmore =>
    cases hlead with
    | first hbefore =>
      have hremaining := @Remaining.cons _ _ item _ _ (Leads.later hafter hbefore) hmore
      simpa using hremaining

theorem Separated.remaining {cs : List Char} {items : List (List Char)} (h : Separated cs items) :
    Remaining true cs items := by
  induction h with
  | last hbefore hafter => exact .cons (.first hbefore) (.nil hafter)
  | more hbefore hafter h ih =>
    refine .cons (.first hbefore) ?_
    cases h with
    | last _ _ => exact ih.behind_comma hafter
    | more _ _ _ => exact ih.behind_comma hafter

/-- Behind the opening character all entries are left. -/
theorem Bracketed.remaining {bracket : Bracket} {cs : List Char} {items : List (List Char)}
    (h : Bracketed bracket cs items) :
    ∃ inner, cs = bracket.opening :: (inner ++ [bracket.closing]) ∧ Remaining true inner items := by
  cases h with
  | empty hblanks => exact ⟨_, rfl, .nil hblanks⟩
  | filled h => exact ⟨_, rfl, h.remaining⟩

/-- Each entry but the first takes a comma at least. -/
theorem Remaining.length_le {first : Bool} {cs : List Char} {items : List (List Char)}
    (h : Remaining first cs items) : items.length ≤ cs.length + first.toNat := by
  induction h with
  | nil _ => exact Nat.zero_le _
  | cons hlead _ ih =>
    simp only [Bool.toNat_false, Nat.add_zero] at ih
    cases hlead with
    | first _ =>
      simp only [List.length_cons, List.length_append, Bool.toNat_true]
      omega
    | later _ _ =>
      simp only [List.length_cons, List.length_append, Bool.toNat_false]
      omega

namespace Reader

variable {α : Type} {cs rest : List Char} {items : List (List Char)} {first : Bool}

/-- A list goes on with its next entry. -/
theorem hasEntry_of_leads {lead item : List Char} (hlead : Leads first lead) (hitem : IsEntry item) :
    hasEntry first (lead ++ (item ++ rest)) = .ok (true, item ++ rest) := by
  obtain ⟨c, tail, rfl, hc⟩ := hitem
  cases hlead with
  | first hblanks =>
    rw [hasEntry, List.cons_append, bind_eq (peek_eq hblanks hc.not_blank)]
    simp [hc.not_list]
    rfl
  | later hbefore hafter =>
    rw [hasEntry, List.append_assoc, List.cons_append, List.cons_append,
      bind_eq (peek_eq hbefore (by decide))]
    change (drop >>= fun _ => peek >>= _) _ = _
    rw [bind_eq drop_eq, bind_eq (peek_eq hafter hc.not_blank)]
    -- The character decides which reader goes on, whatever stands behind it.
    refine (congrFun (g := (pure true : Reader Bool)) ?_ _).trans rfl
    split
    · rename_i hnone
      cases hnone
    · rename_i hsome
      exact absurd (Option.some.inj hsome) hc.not_list
    · rfl

theorem hasEntry_closing (hblanks : Blanks cs) :
    hasEntry first (cs ++ ']' :: rest) = .ok (false, ']' :: rest) := by
  rw [hasEntry, bind_eq (peek_eq hblanks (by decide))]
  rfl

/-- An object goes on with its next key. -/
theorem hasKey_of_leads {lead : List Char} (hlead : Leads first lead) :
    hasKey first (lead ++ '"' :: rest) = .ok (true, '"' :: rest) := by
  cases hlead with
  | first hblanks =>
    rw [hasKey, bind_eq (peek_eq hblanks (by decide))]
    rfl
  | later hbefore hafter =>
    rw [hasKey, List.append_assoc, List.cons_append, bind_eq (peek_eq hbefore (by decide))]
    change (drop >>= fun _ => peek >>= _) _ = _
    rw [bind_eq drop_eq, bind_eq (peek_eq hafter (by decide))]
    rfl

theorem key?_of_leads {lead key : List Char} {name : String} (hlead : Leads first lead)
    (hkey : StringLiteral.Spells key name.toList) :
    key? first (lead ++ '"' :: (key ++ '"' :: rest)) = .ok (some name, rest) := by
  rw [key?, bind_eq (hasKey_of_leads hlead)]
  change (drop >>= fun _ => stringBody >>= _) _ = _
  rw [bind_eq drop_eq, bind_eq (stringBody_eq hkey)]
  rfl

theorem key?_closing (hblanks : Blanks cs) :
    key? first (cs ++ '\x7d' :: rest) = .ok (none, '\x7d' :: rest) := by
  have hasKey_eq : hasKey first (cs ++ '\x7d' :: rest) = .ok (false, '\x7d' :: rest) := by
    rw [hasKey, bind_eq (peek_eq hblanks (by decide))]
    rfl
  rw [key?, bind_eq hasKey_eq]
  rfl

/-! ## Lists -/

/-- Entries are read one by one up to the end of a list. -/
theorem entries_eq {reader : Reader α} {found : List α} {most : Nat}
    (h : Remaining first cs items)
    (hitems : List.Forall₂ (fun item a => IsEntry item ∧ Takes reader item a) items found)
    (hmost : items.length < most) :
    entries reader most first (cs ++ ']' :: rest) = .ok (found, ']' :: rest) := by
  induction h generalizing found most with
  | nil hblanks =>
    cases hitems
    cases most with
    | zero => cases hmost
    | succ most =>
      rw [entries, bind_eq (hasEntry_closing hblanks)]
      rfl
  | cons hlead hmore ih =>
    cases hitems with
    | cons hitem hitems =>
      obtain ⟨hentry, htakes⟩ := hitem
      cases most with
      | zero => cases hmost
      | succ most =>
        have hdelimits : Delimits (_ ++ ']' :: rest) := hmore.delimits .list rest
        rw [entries]
        simp only [List.append_assoc]
        rw [bind_eq (hasEntry_of_leads hlead hentry), if_pos rfl,
          bind_eq (htakes.eq hdelimits),
          bind_eq (ih hitems (Nat.lt_of_succ_lt_succ hmost))]
        rfl

/-- **A list is read** if its entries are. -/
theorem takes_list {reader : Reader α} {Writes : List Char → α → Prop} {found : List α}
    (h : Lists Writes cs found)
    (hreader : ∀ {item a}, Writes item a → IsEntry item ∧ Takes reader item a) :
    Takes (list reader) cs found := by
  intro blanks rest hblanks _
  cases h with
  | items hbracket hitems =>
    have htakes := hitems.imp fun _ _ => hreader
    obtain ⟨inner, rfl, hremaining⟩ := hbracket.remaining
    have hmost := hremaining.length_le
    have hend : endList (']' :: rest) = .ok ((), rest) := @endList_eq rest [] nofun
    rw [list, List.cons_append, bind_eq (peek_eq hblanks (by decide))]
    change (drop >>= fun _ => get >>= _) _ = _
    rw [bind_eq drop_eq, bind_eq get_eq, List.append_assoc, List.singleton_append,
      Bracket.closing, bind_eq (entries_eq hremaining htakes ?_), bind_eq hend]
    · rfl
    · simp only [Bool.toNat_true] at hmost
      simp only [List.length_append, List.length_cons]
      omega

end Reader

end FieldChecks.Json
