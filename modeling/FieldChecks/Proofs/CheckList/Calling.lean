import FieldChecks.Proofs.CheckList.Grammar
import FieldChecks.Proofs.Result
import FieldChecks.Proofs.Text.Concatenation

/-!
# Check lists — writing a call

A call of a maker is written as the maker's name, an argument separator
and the argument. Even if neither part contains a separator, the two can
make one together with what stands between them: `=>` is there in `min=>3`
though it is neither in `min` nor in `>3`, and in `min:::3` the first `::`
is not the one that was written behind `min:`. This file shows that such
accidents are all that can go wrong: a call is read as the one check that
it stands for if and only if there are none (`read_callText_iff`).
-/

namespace FieldChecks

/-! ## No piece of a call that is cut is a call of the same maker -/

namespace Chars

/-- What stands in a text behind the end of its front stands in its back. -/
theorem infix_back {front back left part right : List Char}
    (h : front ++ back = left ++ part ++ right) (hle : front.length ≤ left.length) :
    part <:+: back := by
  rw [List.append_assoc] at h
  rcases List.append_eq_append_iff.1 h with ⟨more, rfl, rfl⟩ | ⟨more, rfl, hmore⟩
  · exact ⟨more, right, by simp⟩
  · simp only [List.length_append] at hle
    obtain rfl : more = [] := List.length_eq_zero_iff.1 (by omega)
    exact ⟨[], right, by simpa using hmore⟩

/-- **A text that is cut is cut for good**: where a piece of it still starts like the text, up to
the end of a separator that it has further on, the text was not cut at all. -/
theorem free_of_piece {cutter name separator argument other core piece : List Char}
    {pieces : List (List Char)} (hc : cutter ≠ [])
    (hcutter : ¬ cutter <:+: argument) (hseparator : ¬ separator <:+: argument)
    (hpieces : Pieces cutter (name ++ separator ++ argument) pieces) (hpiece : piece ∈ pieces)
    (hcore : core <:+: piece) (heq : core = name ++ separator ++ other) :
    ¬ cutter <:+: name ++ separator ++ argument := by
  obtain ⟨hfree, left, right, htext, hleft, hright⟩ := hpieces.of_mem hc hpiece
  obtain ⟨front, back, rfl⟩ := hcore
  have hcall : (name ++ separator).length ≤ (front ++ core ++ back).length := by
    rw [heq]
    simp only [List.length_append]
    omega
  rcases hleft with rfl | hleft
  · rcases hright with rfl | ⟨rest, rfl⟩
    · rw [htext]
      simpa using hfree
    · -- the text is cut behind the piece, and so in the argument
      have hcut : name ++ separator ++ argument =
          (front ++ core ++ back) ++ cutter ++ rest := by simpa using htext
      exact absurd (infix_back hcut hcall) hcutter
  · have hstart : name ++ separator ++ argument =
        (left ++ front ++ name) ++ separator ++ (other ++ back ++ right) := by
      rw [htext, heq]
      simp
    rcases Nat.le_total (name ++ separator).length (left ++ front).length with hle | hle
    · -- the piece has a separator of its own, which is in the argument
      refine absurd (infix_back hstart ?_) hseparator
      exact hle.trans (by simp)
    · -- the text is cut before the end of its separator, and so the piece is cut too
      have htaken : left ++ front <+: name ++ separator ++ argument :=
        ⟨core ++ back ++ right, by rw [htext]; simp⟩
      have hfront : left ++ front <+: name ++ separator :=
        List.prefix_of_prefix_length_le htaken (List.prefix_append _ argument) hle
      have hleft' : cutter <:+: left ++ front :=
        hleft.isInfix.trans (List.prefix_append left front).isInfix
      have hpiece' : name ++ separator <:+: front ++ core ++ back :=
        ⟨front, other ++ back, by rw [heq]; simp⟩
      exact absurd ((hleft'.trans hfront.isInfix).trans hpiece') hfree

end Chars

/-! ## Calls -/

/-- A configuration that is accepted, and whose argument separator does not have the check separator
in it. -/
structure Config.Unnested (config : Config) : Prop where
  accepted : config.validate = .ok ()
  unnested : ¬ Text.Contains config.checkSeparator config.argumentSeparator

/-- The text of a call: a name, an argument separator, and an argument. -/
def Config.callText (config : Config) (name argument : String) : String :=
  name ++ config.argumentSeparator ++ argument

/-- A text that can be a part of a call: it is not empty, has no blanks at its ends, and contains
neither separator. -/
structure Config.IsPart (config : Config) (part : String) : Prop where
  ne_empty : part ≠ ""
  trim_eq : Text.trim part = part
  no_check : ¬ Text.Contains config.checkSeparator part
  no_argument : ¬ Text.Contains config.argumentSeparator part

/-- **A call that a registry can answer**: the maker of the name makes the checker from the
argument, and no checker goes by any piece of the call's text already. -/
structure Registry.Answers (registry : Registry) (config : Config) (name argument : String)
    (checker : Checker) : Prop where
  isPart_name : config.IsPart name
  isPart_argument : config.IsPart argument
  made : ∃ maker, registry.maker? name = some maker ∧ maker.make argument = .ok checker
  unnamed : ∀ piece, Text.Contains piece (config.callText name argument) →
    registry.checker? piece = none

/-- **A call in which the separators are where they were written, and nowhere else.** -/
structure Config.IsClear (config : Config) (name argument : String) : Prop where
  uncut : ¬ Text.Contains config.checkSeparator (config.callText name argument)
  firstCut : Text.FirstCut config.argumentSeparator (config.callText name argument) name argument

namespace CheckList

variable {config : Config} {registry : Registry} {name argument : String} {checker : Checker}

theorem toList_callText : (config.callText name argument).toList =
    name.toList ++ config.argumentSeparator.toList ++ argument.toList := by
  simp [Config.callText]

/-- Parts without blanks at their ends make a call without blanks at its ends. -/
theorem trim_callText (hname : config.IsPart name) (hargument : config.IsPart argument) :
    Text.trim (config.callText name argument) = config.callText name argument := by
  have hstart := (Text.trim_eq_iff.1 hname.trim_eq).2.1
  have hend := (Text.trim_eq_iff.1 hargument.trim_eq).2.2
  refine Text.trim_eq_iff.2 ⟨⟨[], [], by simp, by simp, by simp⟩, ?_, ?_⟩
  · have hne : name.toList ≠ [] := mt String.toList_eq_nil_iff.1 hname.ne_empty
    rw [toList_callText, List.append_assoc, List.head?_append_of_ne_nil _ hne]
    exact hstart
  · have hne : argument.toList ≠ [] := mt String.toList_eq_nil_iff.1 hargument.ne_empty
    rw [toList_callText, List.getLast?_append_of_ne_nil _ hne]
    exact hend

/-- A list that is not cut, without blanks around it, is one segment. -/
theorem segments_of_uncut {separator list : String} (hs : separator ≠ "")
    (h : ¬ Text.Contains separator list) (htrim : Text.trim list = list) (hne : list ≠ "") :
    segments separator list = [list] := by
  have hsplit : Text.split separator list = [list] := (Text.pieces_iff hs).1 (.whole h)
  simp [segments, hsplit, htrim, hne]

/-- A call that is not cut is one segment. -/
theorem segments_callText (hcheck : config.checkSeparator ≠ "") (hname : config.IsPart name)
    (hargument : config.IsPart argument)
    (h : ¬ Text.Contains config.checkSeparator (config.callText name argument)) :
    segments config.checkSeparator (config.callText name argument) =
      [config.callText name argument] := by
  have hne : config.callText name argument ≠ "" := by
    intro hempty
    have := toList_callText ▸ String.toList_eq_nil_iff.2 hempty
    simp only [List.append_eq_nil_iff, String.toList_eq_nil_iff] at this
    exact hname.ne_empty this.1.1
  exact segments_of_uncut hcheck h (trim_callText hname hargument) hne

/-- A segment of a list is trimmed out of one of its pieces. -/
theorem exists_piece_of_mem_segments {separator list segment : String}
    (h : segment ∈ segments separator list) :
    ∃ piece ∈ Text.split separator list, Text.Contains segment piece := by
  obtain ⟨hmem, -⟩ := List.mem_filter.1 h
  obtain ⟨piece, hpiece, htrim⟩ := List.mem_map.1 hmem
  obtain ⟨⟨left, right, hcore, -⟩, -⟩ := Text.trim_eq_iff.1 htrim
  exact ⟨piece, hpiece, left, right, hcore.symm⟩

/-- So it stands in the list. -/
theorem contains_of_mem_segments {separator list segment : String} (hs : separator ≠ "")
    (h : segment ∈ segments separator list) : Text.Contains segment list := by
  have hpieces : Text.Pieces separator list (Text.split separator list) :=
    (Text.pieces_iff hs).2 rfl
  obtain ⟨piece, hpiece, hinside⟩ := exists_piece_of_mem_segments h
  obtain ⟨-, left, right, hlist, -⟩ := Chars.Pieces.of_mem (mt String.toList_eq_nil_iff.1 hs)
    hpieces (List.mem_map_of_mem hpiece)
  exact List.IsInfix.trans hinside ⟨left, right, hlist.symm⟩

/-- **A call with a segment that calls the same maker** is not cut. -/
theorem uncut_of_mem_segments (hcheck : config.checkSeparator ≠ "")
    (hargument : config.IsPart argument) {segment other : String}
    (hsegment : segment ∈ segments config.checkSeparator (config.callText name argument))
    (hcut : Text.FirstCut config.argumentSeparator segment name other) :
    ¬ Text.Contains config.checkSeparator (config.callText name argument) := by
  have hpieces : Text.Pieces config.checkSeparator (config.callText name argument)
      (Text.split config.checkSeparator (config.callText name argument)) :=
    (Text.pieces_iff hcheck).2 rfl
  obtain ⟨piece, hpiece, hinside⟩ := exists_piece_of_mem_segments hsegment
  rw [Text.Pieces, toList_callText] at hpieces
  rw [Text.Contains, toList_callText]
  exact Chars.free_of_piece (mt String.toList_eq_nil_iff.1 hcheck) hargument.no_check
    hargument.no_argument hpieces (List.mem_map_of_mem hpiece) hinside hcut.1

/-- No checker goes by a piece of a text if the text contains none of their names. -/
theorem unnamed_of_names {text : String}
    (h : ∀ name ∈ registry.checkers.names, ¬ Text.Contains name text) (piece : String)
    (hpiece : Text.Contains piece text) : registry.checker? piece = none := by
  by_contra hsome
  exact h piece (Table.mem_names_iff.2 (Option.isSome_iff_ne_none.2 hsome)) hpiece

/-- **A call is read as the one check that it stands for** if and only if the separators are where
they were written, and nowhere else. -/
theorem read_callText_iff (hconfig : config.Unnested)
    (h : registry.Answers config name argument checker) :
    (read config (config.callText name argument) registry).1 = .ok [⟨name, checker⟩] ↔
      config.IsClear name argument := by
  obtain ⟨hcheck, -, -⟩ := Config.validate_eq_ok_iff.1 hconfig.accepted
  have hsegments := segments_callText hcheck h.isPart_name h.isPart_argument
  obtain ⟨maker, hmaker, hmake⟩ := h.made
  rw [read, bindAll_eq_ok_iff]
  constructor
  · intro hread
    obtain ⟨segment, rest, hbind, hrest, hsegment⟩ := List.forall₂_cons_right_iff.1 hread
    have hmem : segment ∈ segments config.checkSeparator (config.callText name argument) :=
      hsegment ▸ List.mem_cons_self
    cases bindSegment_eq_ok_iff.1 hbind with
    | named hchecker _ =>
      rw [h.unnamed segment (contains_of_mem_segments hcheck hmem)] at hchecker
      cases hchecker
    | made _ hcalls _ =>
      have hfirst := hcalls.1
      have huncut := uncut_of_mem_segments hcheck h.isPart_argument hmem hfirst
      -- so the segment is the call, and behind its first cut is the argument
      rw [hsegments huncut] at hsegment
      obtain ⟨rfl, -⟩ := List.cons.inj hsegment
      have hargument := hfirst.1
      rw [toList_callText, List.append_cancel_left_eq, String.toList_inj] at hargument
      exact ⟨huncut, hargument ▸ hfirst⟩
  · intro hclear
    rw [hsegments hclear.uncut]
    have hcalls : Calls config.argumentSeparator (config.callText name argument) registry name
        maker argument :=
      ⟨hclear.firstCut, h.isPart_name.ne_empty, h.isPart_argument.ne_empty,
        h.isPart_argument.no_argument, hmaker⟩
    have hnone := h.unnamed _ List.infix_rfl
    exact .cons (bindSegment_eq_ok_iff.2 (.made hnone hcalls hmake)) .nil

/-- With the built-in makers, a call under separators one of which starts with the other. -/
theorem read_callText_iff_of_arrow :
    let config : Config := { checkSeparator := "=>", argumentSeparator := "=" }
    ∃ checker, config.Unnested ∧ Registry.builtIn.Answers config "min" "3" checker ∧
      config.IsClear "min" "3" ∧
      (read config (config.callText "min" "3") .builtIn).1 = .ok [⟨"min", checker⟩] := by
  intro config
  have hmade : ((Registry.builtIn.maker? "min").bind fun maker =>
      (maker.make "3").toOption).isSome := by decide +kernel
  obtain ⟨checker, hchecker⟩ := Option.isSome_iff_exists.1 hmade
  obtain ⟨maker, hmaker, hmake⟩ := Option.bind_eq_some_iff.1 hchecker
  have hmake' : maker.make "3" = .ok checker := by
    cases h : maker.make "3" with
    | error cause =>
      rw [h] at hmake
      cases hmake
    | ok made =>
      rw [h] at hmake
      cases hmake
      rfl
  have hconfig : config.Unnested := ⟨by decide, by decide⟩
  have hanswers : Registry.builtIn.Answers config "min" "3" checker :=
    ⟨⟨by decide, by decide, by decide, by decide⟩, ⟨by decide, by decide, by decide, by decide⟩,
      ⟨maker, hmaker, hmake'⟩, unnamed_of_names (by decide +kernel)⟩
  have hclear : config.IsClear "min" "3" := ⟨by decide, by decide⟩
  exact ⟨checker, hconfig, hanswers, hclear, (read_callText_iff hconfig hanswers).2 hclear⟩

/-- **Accidents happen**: the end of a name and the separator behind it can make a separator, and so
can the separator and the start of the argument. Neither call is read, although their makers accept
the arguments. -/
theorem not_read_callText_of_accident :
    (let config : Config := { argumentSeparator := "::" }
      let registry := Registry.empty.registerMaker "min:" (Size.maker .atLeast)
      config.Unnested ∧ (∃ checker, registry.Answers config "min:" "3" checker) ∧
        (read config (config.callText "min:" "3") registry).1 =
          .error (.unknownChecker "min:::3")) ∧
    let config : Config := { checkSeparator := "=>", argumentSeparator := "=" }
    let registry := Registry.empty.registerMaker "min" (Size.maker .atLeast)
    config.Unnested ∧ (∃ checker, registry.Answers config "min" ">3" checker) ∧
      (read config (config.callText "min" ">3") registry).1 = .error (.unknownChecker "min") := by
  constructor
  · intro config registry
    have hname : config.IsPart "min:" := ⟨by decide, by decide, by decide, by decide⟩
    have hargument : config.IsPart "3" := ⟨by decide, by decide, by decide, by decide⟩
    have hanswers : ∃ checker, registry.Answers config "min:" "3" checker :=
      ⟨_, hname, hargument, ⟨_, rfl, rfl⟩, fun _ _ => rfl⟩
    have hread : ((read config (config.callText "min:" "3") registry).1.map fun _ => ()) =
        .error (.unknownChecker "min:::3") := by decide +kernel
    exact ⟨⟨by decide, by decide⟩, hanswers, eq_error_of_map hread⟩
  · intro config registry
    have hname : config.IsPart "min" := ⟨by decide, by decide, by decide, by decide⟩
    have hargument : config.IsPart ">3" := ⟨by decide, by decide, by decide, by decide⟩
    have hanswers : ∃ checker, registry.Answers config "min" ">3" checker :=
      ⟨_, hname, hargument, ⟨_, rfl, rfl⟩, fun _ _ => rfl⟩
    have hread : ((read config (config.callText "min" ">3") registry).1.map fun _ => ()) =
        .error (.unknownChecker "min") := by decide +kernel
    exact ⟨⟨by decide, by decide⟩, hanswers, eq_error_of_map hread⟩

end CheckList

end FieldChecks
