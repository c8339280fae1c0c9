import EnvAudit.Proofs.Report.Text
import Mathlib.Data.List.Perm.Subperm

/-!
# Marked-up texts that can be rendered

A marked-up text is refused only for a closing tag without an open one. Around an escaped text no tag is in danger: none
starts in it, and the backslashes at its end at most take away the tag behind it, which then closes nothing. So whatever
texts a report is made of, it can be rendered. Main statements: `isSafe_escape`, `exists_text`.
-/

namespace EnvAudit.Markup

/-! ## Behind backslashes -/

section
variable {slashes position fuel : Nat} {tag marked : List Char}

theorem splitParts_tag (isTag : IsTag tag) :
    splitParts slashes position (fuel + 1) (bracketed tag ++ marked) =
      addChars (List.replicate (slashes / 2) '\\')
        (if slashes % 2 == 1 then addChars (bracketed tag) (splitParts 0 (position + tag.length + 2) fuel marked)
        else .tag position tag :: splitParts 0 (position + tag.length + 2) fuel marked) := by
  rw [splitParts.eq_def]
  simp only [isTag.tag?_append]

theorem splitParts_backslash :
    splitParts slashes position (fuel + 1) ('\\' :: marked) =
      splitParts (slashes + 1) (position + 1) fuel marked := by
  rw [splitParts.eq_def]
  simp only [tag?_of_ne (by decide : '\\' ≠ '[')]

theorem splitParts_char {c : Char} (solid : c ≠ '\\') (noTag : tag? (c :: marked) = none) :
    ∃ front, splitParts slashes position (fuel + 1) (c :: marked) =
      addChars front (splitParts 0 (position + 1) fuel marked) := by
  rw [splitParts.eq_def]
  simp only [noTag]
  split
  next same => cases same
  next same => exact absurd (List.cons.inj same).1 solid
  next same => cases same; exact ⟨_, rfl⟩
  next same => cases same; exact ⟨_, rfl⟩

end

/-! ## Tags in escaped texts -/

section
variable {slashes fuel : Nat} {s rest : List Char}

theorem tagBody?_cons_of_ne {c : Char} (opening : c ≠ '[') (closing : c ≠ ']') :
    tagBody? (c :: s) = none ↔ tagBody? s = none := by
  rw [tagBody?.eq_4 _ _ closing opening, Option.map_eq_none_iff]

theorem tagBody?_backslashes (count : Nat) :
    tagBody? (List.replicate count '\\' ++ s) = none ↔ tagBody? s = none := by
  induction count with
  | zero => exact Iff.rfl
  | succ count ih => rw [List.replicate_succ, List.cons_append, tagBody?_cons_of_ne (by decide) (by decide), ih]

theorem tagBody?_escapeTags (unclosed : tagBody? s = none) (behind : tagBody? rest = none) (enough : s.length < fuel) :
    tagBody? (escapeTags slashes fuel s ++ rest) = none := by
  fun_induction escapeTags slashes fuel s with
  | case1 => exact absurd enough (Nat.not_lt_zero _)
  | case2 slashes fuel s tag after found ih =>
      rw [List.append_assoc, List.append_assoc, tagBody?_backslashes]
      rfl
  | case3 => rwa [tagBody?_backslashes]
  | case4 slashes fuel after noTag ih =>
      rw [tagBody?_cons_of_ne (by decide) (by decide)] at unclosed
      exact ih unclosed (Nat.lt_of_succ_lt_succ enough)
  | case5 slashes fuel c after solid noTag ih =>
      rw [List.append_assoc, tagBody?_backslashes, List.cons_append]
      by_cases closing : c = ']'
      · subst closing
        cases unclosed
      by_cases opening : c = '['
      · subst opening
        rfl
      rw [tagBody?_cons_of_ne opening closing] at unclosed ⊢
      exact ih unclosed (Nat.lt_of_succ_lt_succ enough)

theorem tag?_bracket_cons {c : Char} (starts : startsTag c = true) :
    tag? ('[' :: c :: s) = none ↔ tagBody? s = none := by
  rw [tag?, if_pos starts, Option.map_eq_none_iff]

theorem tag?_bracket_cons_of_not {c : Char} (other : ¬startsTag c = true) : tag? ('[' :: c :: s) = none := by
  rw [tag?, if_neg other]

theorem tag?_eq_none_of_tagBody? (unclosed : tagBody? s = none) : tag? ('[' :: s) = none := by
  cases s with
  | nil => rfl
  | cons c s =>
      by_cases starts : startsTag c = true
      · have opening : c ≠ '[' := by rintro rfl; exact absurd starts (by decide)
        have closing : c ≠ ']' := by rintro rfl; exact absurd starts (by decide)
        rwa [tag?_bracket_cons starts, ← tagBody?_cons_of_ne opening closing]
      · exact tag?_bracket_cons_of_not starts

theorem exists_escapeTags (slashes fuel : Nat) (s : List Char) :
    ∃ count escaped, slashes ≤ count ∧ escapeTags slashes fuel s = List.replicate count '\\' ++ escaped := by
  fun_induction escapeTags slashes fuel s with
  | case1 slashes s => exact ⟨slashes, s, Nat.le_refl _, rfl⟩
  | case2 slashes => exact ⟨2 * slashes + 1, _, by omega, List.append_assoc _ _ _⟩
  | case3 slashes => exact ⟨slashes, [], Nat.le_refl _, (List.append_nil _).symm⟩
  | case4 slashes fuel after noTag ih =>
      obtain ⟨count, escaped, more, same⟩ := ih
      exact ⟨count, escaped, Nat.le_of_succ_le more, same⟩
  | case5 slashes => exact ⟨slashes, _, Nat.le_refl _, rfl⟩

theorem tag?_escapeTags (noTag : tag? ('[' :: s) = none) (behind : tagBody? rest = none) (enough : s.length < fuel) :
    tag? ('[' :: (escapeTags 0 fuel s ++ rest)) = none := by
  obtain ⟨fuel, rfl⟩ := Nat.exists_eq_succ_of_ne_zero (Nat.ne_zero_of_lt enough)
  cases found : tag? s with
  | some pair =>
      obtain ⟨tag, after⟩ := pair
      rw [escapeTags_tag found]
      rfl
  | none =>
      cases s with
      | nil => exact tag?_eq_none_of_tagBody? behind
      | cons c s =>
          by_cases solid : c = '\\'
          · subst solid
            obtain ⟨count, escaped, more, same⟩ := exists_escapeTags 1 fuel s
            obtain ⟨count, rfl⟩ := Nat.exists_eq_succ_of_ne_zero (Nat.ne_zero_of_lt more)
            have shape : escapeTags 0 (fuel + 1) ('\\' :: s) = escapeTags 1 fuel s := by
              rw [escapeTags.eq_def]
              simp only [found]
            rw [shape, same]
            rfl
          · rw [escapeTags_char solid found, List.cons_append]
            by_cases starts : startsTag c = true
            · rw [tag?_bracket_cons starts] at noTag ⊢
              exact tagBody?_escapeTags noTag behind (Nat.lt_of_succ_lt_succ enough)
            · exact tag?_bracket_cons_of_not starts

end

/-! ## Parts -/

theorem close?_of_mem {name : String} {opened : List Opened} (member : name ∈ opened.map (·.name)) :
    ∃ closed others, close? name opened = some (closed, others) ∧ closed ∈ opened ∧ others ⊆ opened ∧
      others.map (·.name) = (opened.map (·.name)).erase name := by
  induction opened with
  | nil => cases member
  | cons tag opened ih =>
      rw [close?, List.map_cons]
      by_cases same : tag.name = name
      · subst same
        rw [if_pos (beq_self_eq_true _), List.erase_cons_head]
        exact ⟨tag, opened, rfl, List.mem_cons_self, List.subset_cons_self _ _, rfl⟩
      · obtain ⟨closed, others, found, inside, within, erased⟩ := ih (List.mem_of_ne_of_mem (Ne.symm same) member)
        have other : (tag.name == name) = false := beq_eq_false_iff_ne.mpr same
        rw [if_neg (by simp [other]), found, List.erase_cons_tail (by simp [other]), ← erased]
        exact ⟨closed, tag :: others, rfl, List.mem_cons_of_mem _ inside, List.cons_subset_cons tag within, rfl⟩

/-- The tags that are open have parameters that can be read, and one for each of some names is among them. -/
structure IsOpen (names : List String) (opened : List Opened) : Prop where
  readable : ∀ tag ∈ opened, tag.fault? = none
  within : names.Subperm (opened.map (·.name))

variable [Dialect]

def CanRender (opened : List Opened) (parts : List Part) : Prop := ∃ pieces, piecesOf opened parts = .ok pieces

namespace CanRender
variable {opened : List Opened} {parts : List Part} {name : List Char} {position : Nat}

theorem nil : CanRender opened [] := ⟨[], rfl⟩

theorem text_iff {s : List Char} : CanRender opened (.text s :: parts) ↔ CanRender opened parts := by
  constructor
  · rintro ⟨pieces, read⟩
    rw [piecesOf] at read
    obtain ⟨others, inner, -⟩ := ok_of_map read
    exact ⟨others, inner⟩
  · rintro ⟨pieces, read⟩
    rw [CanRender, piecesOf, read]
    exact ⟨_, rfl⟩

theorem addChar {c : Char} (h : CanRender opened parts) : CanRender opened (addChar c parts) := by
  cases parts with
  | nil => exact text_iff.mpr h
  | cons part parts =>
      cases part with
      | text s => exact text_iff.mpr (text_iff.mp h)
      | tag => exact text_iff.mpr h

theorem addChars {s : List Char} (h : CanRender opened parts) : CanRender opened (addChars s parts) := by
  induction s with
  | nil => exact h
  | cons c s ih => exact ih.addChar

theorem opens {c : Char} (opening : c ≠ '/') (h : CanRender (.ofTag (c :: name) :: opened) parts) :
    CanRender opened (.tag position (c :: name) :: parts) := by
  rw [CanRender, piecesOf.eq_4 _ _ _ _ fun _ same => opening (List.cons.inj same).1]
  exact h

theorem closes {closing : List String} (style : IsStyle name) (isOpen : IsOpen ((Opened.ofTag name).name :: closing) opened)
    (h : ∀ others, IsOpen closing others → CanRender others parts) :
    CanRender opened (.tag position ('/' :: name) :: parts) := by
  have member : (Opened.ofTag name).name ∈ opened.map (·.name) := isOpen.within.subset List.mem_cons_self
  obtain ⟨closed, others, found, inside, kept, erased⟩ := close?_of_mem member
  have taken : takeClosed opened position name = .ok (closed, others) := by
    have named : name.isEmpty = false := by simpa using style.ne_nil
    rw [style.ofTag_eq] at found
    simp [takeClosed, style.nameOf_eq, style.trimmed, named, found]
  have fewer : closing.Subperm (others.map (·.name)) := by
    rw [erased]
    simpa using isOpen.within.erase (Opened.ofTag name).name
  obtain ⟨pieces, read⟩ := h others ⟨fun tag member => isOpen.readable tag (kept member), fewer⟩
  refine ⟨pieces, ?_⟩
  rw [piecesOf, taken]
  simpa only [isOpen.readable closed inside] using read

end CanRender

/-- Behind some backslashes a marked-up text can be rendered wherever it stands, if the styles that it closes are open. -/
def Renders (slashes : Nat) (closing : List String) (marked : List Char) : Prop :=
  ∀ opened position fuel, IsOpen closing opened → marked.length < fuel →
    CanRender opened (splitParts slashes position fuel marked)

namespace Renders
variable {slashes : Nat} {closing : List String} {marked tag name : List Char}

theorem of_step (step : ∀ opened position fuel, IsOpen closing opened → marked.length ≤ fuel →
    CanRender opened (splitParts slashes position (fuel + 1) marked)) : Renders slashes closing marked := by
  intro opened position fuel within enough
  cases fuel with
  | zero => exact absurd enough (Nat.not_lt_zero _)
  | succ fuel => exact step opened position fuel within (Nat.le_of_lt_succ enough)

theorem nil : Renders slashes closing [] :=
  of_step fun _ _ _ _ _ => CanRender.nil.addChars

theorem char {c : Char} (solid : c ≠ '\\') (noTag : tag? (c :: marked) = none) (h : Renders 0 closing marked) :
    Renders slashes closing (c :: marked) := by
  refine of_step fun opened position fuel within enough => ?_
  obtain ⟨front, split⟩ := splitParts_char solid noTag
  rw [split]
  exact (h opened _ fuel within enough).addChars

theorem ordinary {s : List Char} (all : ∀ c ∈ s, IsOrdinary c) (h : Renders 0 closing marked) :
    Renders 0 closing (s ++ marked) := by
  induction s with
  | nil => exact h
  | cons c s ih =>
      obtain ⟨⟨opening, solid, -⟩, others⟩ := List.forall_mem_cons.mp all
      exact (ih others).char solid (tag?_of_ne opening _)

theorem backslashes {count : Nat} (h : Renders (slashes + count) closing marked) :
    Renders slashes closing (List.replicate count '\\' ++ marked) := by
  induction count generalizing slashes with
  | zero => exact h
  | succ count ih =>
      rw [List.replicate_succ, List.cons_append]
      refine of_step fun opened position fuel within enough => ?_
      rw [splitParts_backslash]
      refine ih ?_ opened _ fuel within enough
      rwa [Nat.add_right_comm, Nat.add_assoc]

theorem of_tag (isTag : IsTag tag) (escaped : slashes % 2 = 1 → Renders 0 closing marked)
    (plain : slashes % 2 ≠ 1 → ∀ opened position fuel, IsOpen closing opened → marked.length < fuel →
      CanRender opened (.tag position tag :: splitParts 0 (position + tag.length + 2) fuel marked)) :
    Renders slashes closing (bracketed tag ++ marked) := by
  refine of_step fun opened position fuel within enough => ?_
  rw [List.length_append, bracketed, List.length_append, List.length_cons] at enough
  rw [splitParts_tag isTag]
  apply CanRender.addChars
  split
  next odd => exact (escaped (beq_iff_eq.mp odd) opened _ fuel within (by omega)).addChars
  next even => exact plain (fun odd => even (beq_iff_eq.mpr odd)) opened position fuel within (by omega)

theorem opens (style : IsStyle name) (h : Renders 0 ((Opened.ofTag name).name :: closing) marked) :
    Renders 0 closing (bracketed name ++ marked) := by
  obtain ⟨c, body, rfl, -⟩ := style.isTag
  refine of_tag style.isTag (fun odd => absurd odd (by decide)) fun _ opened position fuel isOpen enough => ?_
  have more : IsOpen ((Opened.ofTag (c :: body)).name :: closing) (.ofTag (c :: body) :: opened) :=
    ⟨List.forall_mem_cons.mpr ⟨by rw [style.ofTag_eq], isOpen.readable⟩, List.subperm_cons _ |>.mpr isOpen.within⟩
  exact (h _ _ fuel more enough).opens fun same => style.opening.1 (congrArg some same)

/-- Where backslashes take the closing tag away, the style stays open, which does no harm. -/
theorem closes (style : IsStyle name) (h : Renders 0 closing marked) :
    Renders slashes ((Opened.ofTag name).name :: closing) (bracketed ('/' :: name) ++ marked) := by
  refine of_tag style.isTag_closing (fun _ opened position fuel isOpen enough => ?_)
    fun _ opened position fuel isOpen enough => ?_
  · exact h opened position fuel ⟨isOpen.readable, (List.subperm_cons_self).trans isOpen.within⟩ enough
  · exact .closes style isOpen fun others fewer => h others _ fuel fewer enough

end Renders

/-! ## Escaped texts -/

section
variable {closing : List String} {rest : List Char} (behind : ∀ slashes, Renders slashes closing rest)
  (unclosed : tagBody? rest = none)
include behind unclosed

theorem renders_escapeTags {slashes fuel : Nat} {s : List Char} (enough : s.length < fuel) :
    Renders 0 closing (escapeTags slashes fuel s ++ rest) := by
  fun_induction escapeTags slashes fuel s with
  | case1 => exact absurd enough (Nat.not_lt_zero _)
  | case2 slashes fuel s tag after found ih =>
      -- The number of backslashes in front of the tag is odd, so the tag is read as text.
      obtain ⟨isTag, rfl⟩ := isTag_of_tag? found
      rw [List.length_append, bracketed, List.length_append, List.length_cons] at enough
      rw [List.append_assoc, List.append_assoc]
      apply Renders.backslashes
      apply Renders.of_tag isTag
      · exact fun _ => ih (by omega)
      · exact fun even => absurd (by omega) even
  | case3 slashes => exact .backslashes (behind _)
  | case4 slashes fuel after noTag ih => exact ih (Nat.lt_of_succ_lt_succ enough)
  | case5 slashes fuel c after solid noTag ih =>
      have short := Nat.lt_of_succ_lt_succ enough
      rw [List.append_assoc, List.cons_append]
      apply Renders.backslashes
      apply Renders.char solid
      · by_cases opening : c = '['
        · subst opening
          exact tag?_escapeTags noTag unclosed short
        · exact tag?_of_ne opening _
      · exact ih short

end

/-- In front of a text that can be rendered behind any backslashes and closes no tag, a marked-up text can be. -/
def IsSafe (marked : List Char) : Prop :=
  ∀ closing rest, (∀ slashes, Renders slashes closing rest) → tagBody? rest = none → Renders 0 closing (marked ++ rest)

theorem isSafe_ordinary {s : List Char} (all : ∀ c ∈ s, IsOrdinary c) : IsSafe s :=
  fun _ _ behind _ => (behind 0).ordinary all

theorem IsSafe.ordinary_append {s marked : List Char} (all : ∀ c ∈ s, IsOrdinary c) (h : IsSafe marked) :
    IsSafe (s ++ marked) := by
  intro closing rest behind unclosed
  rw [List.append_assoc]
  exact (h closing rest behind unclosed).ordinary all

theorem isSafe_escape (s : String) : IsSafe (escape s).toList := by
  intro closing rest behind unclosed
  have enough : s.toList.length < s.length + 1 := String.length_toList ▸ Nat.lt_succ_self _
  have guarded (t : List Char) : guardEnd t = t ∨ guardEnd t = t ++ ['\\'] := by
    unfold guardEnd
    split
    next => exact .inr rfl
    next => split <;> simp
    next => exact .inl rfl
  rw [escape, String.toList_ofList]
  rcases guarded (escapeTags 0 (s.length + 1) s.toList) with same | more
  · rw [same]
    exact renders_escapeTags behind unclosed enough
  · rw [more, List.append_assoc]
    exact renders_escapeTags (fun slashes => .backslashes (behind (slashes + 1)))
      ((tagBody?_backslashes 1).mpr unclosed) enough

theorem IsSafe.renders {marked : List Char} (h : IsSafe marked) : Renders 0 [] marked := by
  simpa using h [] [] (fun _ => .nil) rfl

theorem Renders.styled {closing : List String} {name marked rest : List Char} (style : IsStyle name)
    (inner : IsSafe marked) (h : Renders 0 closing rest) :
    Renders 0 closing (bracketed name ++ (marked ++ (bracketed ('/' :: name) ++ rest))) :=
  .opens style (inner _ _ (fun _ => .closes style h) rfl)

theorem exists_render {s : String} (h : Renders 0 [] s.toList) : ∃ pieces, render s = .ok pieces :=
  h [] 0 (s.length + 1) ⟨by simp, List.nil_subperm⟩ (String.length_toList ▸ Nat.lt_succ_self _)

end EnvAudit.Markup

namespace EnvAudit.Report
open Markup (Renders IsSafe isSafe_escape isSafe_ordinary IsOrdinary)
variable [Markup.Dialect]

/-! ## Text reports -/

theorem renders_styled {closing : List String} {style text : String} {rest : List Char} (member : style ∈ styles)
    (inner : IsSafe text.toList) (h : Renders 0 closing rest) : Renders 0 closing ((styled style text).toList ++ rest) := by
  rw [toList_styled_append]
  exact .styled (isStyle_of_mem member) inner h

section
variable (f : Finding) {rest : List Char}

theorem renders_name (h : Renders 0 [] rest) : Renders 0 []
    ((if f.variableName == "" then "" else styled "cyan" (Markup.escape f.variableName)).toList ++ rest) := by
  split
  · exact h
  · exact renders_styled (by decide) (isSafe_escape _) h

theorem renders_place (h : Renders 0 [] rest) : Renders 0 []
    ((match f.line.filter (· != 0) with
      | some line => styled "dim" (":" ++ Numeral.render line)
      | none => "").toList ++ rest) := by
  have colon : IsFrame ":" := by decide
  split
  · exact renders_styled (by decide) (isSafe_ordinary (colon.append (isFrame_render _)).ordinary) h
  · exact h

theorem renders_advice : Renders 0 []
    (match f.suggestion.filter (· != "") with
      | some suggestion => "\n    [dim]Suggestion: " ++ Markup.escape suggestion ++ "[/dim]"
      | none => "").toList := by
  split
  next suggestion _ =>
    have hint : IsFrame "Suggestion: " := by decide
    have safe : IsSafe ("Suggestion: " ++ Markup.escape suggestion).toList := by
      rw [String.toList_append]
      exact (isSafe_escape suggestion).ordinary_append hint.ordinary
    have dimmed := renders_styled (by decide : "dim" ∈ styles) safe (Renders.nil : Renders 0 [] [])
    have indent : ∀ c ∈ "\n    ".toList, IsOrdinary c := Text.forall_mem_of_all (by decide)
    simpa [styled] using dimmed.ordinary indent
  next => exact .nil

theorem renders_finding {style : String} (member : style ∈ styles) : Renders 0 [] (findingLines style f).toList := by
  have indent : IsFrame "  " := by decide
  have gap : IsFrame ": " := by decide
  have message := renders_styled member (isSafe_escape f.message) (renders_advice f)
  have whole := (renders_name f (renders_place f (message.ordinary gap.ordinary))).ordinary indent.ordinary
  simp only [findingLines, String.toList_append, List.append_assoc]
  exact whole

end

def IsRenderable (line : String) : Prop := ∃ pieces, Markup.render line = .ok pieces

theorem Prints.isRenderable {marked lines : List String} (h : Prints marked lines) : ∀ line ∈ marked, IsRenderable line := by
  obtain ⟨printed, read, -⟩ := h.printed
  intro line member
  obtain ⟨shown, read⟩ := exists_mapM_iff.mp ⟨printed, read⟩ line member
  obtain ⟨pieces, read, -⟩ := ok_of_map read
  exact ⟨pieces, read⟩

theorem isRenderable_section {title style : String} (member : style ∈ styles) (bold : "bold " ++ style ∈ styles)
    (frame : IsFrame title) (findings : List Finding) : ∀ line ∈ sectionLines title style findings, IsRenderable line := by
  unfold sectionLines
  split
  · simp
  · have empty : IsFrame "" := by decide
    have head := (prints_head bold frame findings.length).isRenderable
    have body : ∀ line ∈ findings.map (findingLines style), IsRenderable line :=
      List.forall_mem_map.mpr fun f _ => Markup.exists_render (renders_finding f member)
    exact List.forall_mem_append.mpr ⟨List.forall_mem_append.mpr ⟨head, body⟩, (Prints.frame empty).isRenderable⟩

theorem isRenderable_lines (v : Verdict) : ∀ line ∈ lines v, IsRenderable line := by
  have empty : IsFrame "" := by decide
  have first := ((prints_outcome v.isValid).append (.frame empty)).isRenderable
  have errors := isRenderable_section (by decide : "red" ∈ styles) (by decide) (by decide : IsFrame "ERRORS")
  have warnings := isRenderable_section (by decide : "yellow" ∈ styles) (by decide) (by decide : IsFrame "WARNINGS")
  have notes := isRenderable_section (by decide : "blue" ∈ styles) (by decide) (by decide : IsFrame "INFO")
  have counts := (prints_summary v.summary).isRenderable
  simp only [lines, List.forall_mem_append]
  exact ⟨⟨⟨⟨first, errors _⟩, warnings _⟩, notes _⟩, counts⟩

theorem exists_text (v : Verdict) (colour : Bool) : ∃ report, text v colour = .ok report := by
  have printed : ∀ line ∈ lines v, ∃ shown, printLine colour line = .ok shown := by
    intro line member
    obtain ⟨pieces, read⟩ := isRenderable_lines v line member
    exact ⟨_, by rw [printLine, read]; rfl⟩
  obtain ⟨shown, read⟩ := exists_mapM_iff.mpr printed
  exact ⟨_, by rw [text, read]; rfl⟩

end EnvAudit.Report
