import FieldChecks.Json.Record
import FieldChecks.Proofs.Json.Reader
import Mathlib.Data.List.TakeWhile

/-!
# Records in JSON — what an object and a list fill in

The members of an object fill a state one after the other, in whatever
order they come: a known key by the reader of its field, an unknown one
not at all (`Fills`). The entries of a list fill the fields in their
order, and may end early (`FillsInOrder`). A record is read from an
object or a list if the state that it fills makes something
(`takes_object`, `takes_list`).
-/

namespace FieldChecks.Json

namespace RecordShape

variable {σ α : Type} {shape : RecordShape σ α}
variable {cs rest : List Char} {first : Bool} {seen : List String} {state filled : σ} {a : α}

/-! ## Filling a state -/

/-- **The members of an object fill a state**, some keys having been seen. -/
inductive Fills (shape : RecordShape σ α) :
    (seen : List String) → σ → List (String × List Char) → σ → Prop
  | nil {seen : List String} {state : σ} : Fills shape seen state [] state
  | known {seen : List String} {state next filled : σ} {key : String} {cs : List Char}
      {entries : List (String × List Char)} {field : RecordField σ}
      (hfield : shape.fields.find? (·.name == key) = some field) (hseen : key ∉ seen)
      (hread : Reader.Takes (field.read state) cs next)
      (h : Fills shape (key :: seen) next entries filled) :
      Fills shape seen state ((key, cs) :: entries) filled
  | unknown {seen : List String} {state filled : σ} {key : String} {cs : List Char}
      {entries : List (String × List Char)}
      (hfield : shape.fields.find? (·.name == key) = none) (hvalue : IsValue cs)
      (h : Fills shape seen state entries filled) :
      Fills shape seen state ((key, cs) :: entries) filled

/-- **The entries of a list fill a state** in the order of the fields, of which there may be
more. -/
inductive FillsInOrder : List (RecordField σ) → σ → List (List Char) → σ → Prop
  | nil {fields : List (RecordField σ)} {state : σ} : FillsInOrder fields state [] state
  | cons {field : RecordField σ} {fields : List (RecordField σ)} {state next filled : σ}
      {item : List Char} {items : List (List Char)} (hitem : IsEntry item)
      (hread : Reader.Takes (field.read state) item next)
      (h : FillsInOrder fields next items filled) :
      FillsInOrder (field :: fields) state (item :: items) filled

/-! ## Objects -/

/-- Members are read one by one up to the end of an object. -/
theorem members_eq {members : List Member} {entries : List (String × List Char)} {most : Nat}
    (h : Remaining first cs (members.map Member.chars))
    (hentries : List.Forall₂ Member.Gives members entries)
    (hfills : shape.Fills seen state entries filled) (hmost : members.length < most) :
    shape.members most first seen state (cs ++ '\x7d' :: rest) = .ok (filled, '\x7d' :: rest) := by
  induction hentries generalizing first cs seen state most with
  | nil =>
    cases hfills
    cases h with
    | nil hblanks =>
      cases most with
      | zero => cases hmost
      | succ most =>
        rw [RecordShape.members, bind_eq (Reader.key?_closing hblanks)]
        rfl
  | @cons member entry members entries hgives hentries ih =>
    obtain ⟨key, value⟩ := entry
    obtain ⟨hspaced, hkey, hvalue⟩ := hgives
    obtain rfl : member.value = value := hvalue
    cases h with
    | @cons _ lead _ more _ hlead hmore =>
      cases most with
      | zero => cases hmost
      | succ most =>
        have hdelimits : Delimits (more ++ '\x7d' :: rest) := hmore.delimits .object rest
        have hlater := Nat.lt_of_succ_lt_succ hmost
        rw [RecordShape.members]
        simp only [Member.chars, List.append_assoc, List.cons_append]
        rw [bind_eq (Reader.key?_of_leads hlead hkey)]
        cases hfills with
        | known hfield hseen hread hfills =>
          simp only [hfield, List.contains_eq_mem, hseen, decide_false, Bool.false_eq_true,
            if_false]
          rw [bind_eq (Reader.colon_eq hspaced.before),
            bind_eq (hread _ _ hspaced.after hdelimits)]
          exact ih hmore hfills hlater
        | unknown hfield hvalue hfills =>
          simp only [hfield]
          rw [bind_eq (Reader.colon_eq hspaced.before),
            bind_eq (Reader.takes_ignored hvalue _ _ hspaced.after hdelimits)]
          exact ih hmore hfills hlater

/-- What a state makes is had without reading any further. -/
theorem completeAt_eq (bracket : Bracket) (h : shape.complete state = .ok a) :
    shape.completeAt bracket state cs = .ok (a, cs) := by
  rw [completeAt, h]
  rfl

/-- **A record is read from an object** whose members fill a state that makes it. -/
theorem takes_object {entries : List (String × List Char)} (h : IsObject cs entries)
    (hfills : shape.Fills [] shape.start entries filled) (ha : shape.complete filled = .ok a) :
    Reader.Takes shape.read cs a := by
  intro blanks rest hblanks _
  cases h with
  | members hbracket hentries =>
    obtain ⟨inner, rfl, hremaining⟩ := hbracket.remaining
    have hmost := hremaining.length_le
    rw [RecordShape.read, List.cons_append,
      bind_eq (Reader.peek_eq hblanks (by decide))]
    change (Reader.drop >>= fun _ => get >>= _) _ = _
    rw [bind_eq Reader.drop_eq, bind_eq Reader.get_eq, List.append_assoc,
      List.singleton_append, Bracket.closing,
      bind_eq (members_eq hremaining hentries hfills ?_),
      bind_eq (completeAt_eq .object ha), bind_eq Reader.endObject_eq]
    · rfl
    · simp only [List.length_map, Bool.toNat_true] at hmost
      simp only [List.length_append, List.length_cons]
      omega

/-! ## Lists -/

/-- Fields are read one by one up to the end of a list, which may come before the last field. -/
theorem items_eq {fields : List (RecordField σ)} {items : List (List Char)} {count : Nat}
    (h : Remaining (count == 0) cs items) (hfills : FillsInOrder fields state items filled)
    (hshort : items.length < fields.length → shape.tooShort (count + items.length) = none) :
    ∃ blanks, Blanks blanks ∧
      shape.items count fields state (cs ++ ']' :: rest) = .ok (filled, blanks ++ ']' :: rest) := by
  induction hfills generalizing cs count with
  | @nil fields state =>
    cases h with
    | nil hblanks =>
      -- With every field filled nothing more is looked for, and blanks stay unread; otherwise
      -- they are read over on the way to the end.
      cases fields with
      | nil => exact ⟨cs, hblanks, rfl⟩
      | cons field fields =>
        refine ⟨[], nofun, ?_⟩
        have hnone : shape.tooShort count = none := hshort (Nat.succ_pos _)
        rw [RecordShape.items, bind_eq (Reader.hasEntry_closing hblanks)]
        simp only [Bool.false_eq_true, if_false, hnone]
        rfl
  | cons hitem hread _ ih =>
    cases h with
    | @cons _ _ _ more _ hlead hmore =>
      have hdelimits : Delimits (more ++ ']' :: rest) := hmore.delimits .list rest
      obtain ⟨blanks, hblanks, hitems⟩ := @ih more (count + 1) hmore fun hlt => by
        have hnone := hshort (Nat.succ_lt_succ hlt)
        rwa [List.length_cons, Nat.add_comm _ 1, ← Nat.add_assoc] at hnone
      refine ⟨blanks, hblanks, ?_⟩
      rw [RecordShape.items]
      simp only [List.append_assoc]
      rw [bind_eq (Reader.hasEntry_of_leads hlead hitem), if_pos rfl,
        bind_eq (hread.eq hdelimits)]
      exact hitems

/-- **A record is read from a list** whose entries fill a state that makes it. -/
theorem takes_list {items : List (List Char)} (h : Bracketed .list cs items)
    (hfills : FillsInOrder shape.fields shape.start items filled)
    (hshort : items.length < shape.fields.length → shape.tooShort items.length = none)
    (ha : shape.complete filled = .ok a) : Reader.Takes shape.read cs a := by
  intro blanks rest hblanks _
  obtain ⟨inner, rfl, hremaining⟩ := h.remaining
  obtain ⟨after, hafter, hitems⟩ := @items_eq _ _ shape inner rest _ _ _ _ 0 hremaining hfills
    (by simpa using hshort)
  rw [RecordShape.read, List.cons_append, bind_eq (Reader.peek_eq hblanks (by decide))]
  change (Reader.drop >>= fun _ => shape.items 0 shape.fields shape.start >>= _) _ = _
  rw [bind_eq Reader.drop_eq, List.append_assoc, List.singleton_append, Bracket.closing,
    bind_eq hitems, bind_eq (completeAt_eq .list ha),
    bind_eq (Reader.endList_eq hafter)]
  rfl

end RecordShape

/-- **A text is decoded** into what a reader takes from it. -/
theorem decode_eq {α : Type} {reader : Reader α} {Writes : List Char → Prop} {text : String} {a : α}
    (h : Holds Writes text) (hreader : ∀ cs, Writes cs → Reader.Takes reader cs a) :
    decode reader text = .ok a := by
  cases h with
  | @padded _ cs after hbefore hafter htext hwrites =>
    have hrest : Delimits after := by
      have hnil : Delimits [] := nofun
      simpa using hnil.of_blank_append hafter
    have hfinish : finish after = .ok () := by
      rw [finish, List.dropWhile_eq_nil_iff.2 hafter]
    have hread := hreader cs hwrites _ _ hbefore hrest
    rw [decode, htext, hread]
    simp [hfinish, bind, Except.bind, pure, Except.pure]

end FieldChecks.Json
