import EnvAudit.Proofs.Failure
import EnvAudit.Report.Markup
import Mathlib.Data.List.TakeWhile

namespace EnvAudit.Markup

/-! ## Tags -/

def IsTag (tag : List Char) : Prop :=
  ∃ c body, tag = c :: body ∧ startsTag c = true ∧ ∀ d ∈ body, d ≠ '[' ∧ d ≠ ']'

section
variable {s tag body rest : List Char}

theorem tagBody?_append (clean : ∀ d ∈ body, d ≠ '[' ∧ d ≠ ']') (rest : List Char) :
    tagBody? (body ++ ']' :: rest) = some (body, rest) := by
  induction body with
  | nil => rfl
  | cons c body ih =>
      obtain ⟨⟨opening, closing⟩, others⟩ := List.forall_mem_cons.mp clean
      rw [List.cons_append, tagBody?.eq_4 _ _ closing opening, ih others]
      rfl

theorem tagBody?_eq_some (found : tagBody? s = some (body, rest)) :
    s = body ++ ']' :: rest ∧ ∀ d ∈ body, d ≠ '[' ∧ d ≠ ']' := by
  fun_induction tagBody? s generalizing body with
  | case1 => cases found
  | case2 => cases found; simp
  | case3 => cases found
  | case4 c s closing opening ih =>
      obtain ⟨⟨inner, rest⟩, inside, same⟩ := Option.map_eq_some_iff.mp found
      cases same
      obtain ⟨rfl, clean⟩ := ih inside
      exact ⟨rfl, List.forall_mem_cons.mpr ⟨⟨opening, closing⟩, clean⟩⟩

theorem IsTag.tag?_append (isTag : IsTag tag) (rest : List Char) : tag? (bracketed tag ++ rest) = some (tag, rest) := by
  obtain ⟨c, body, rfl, starts, clean⟩ := isTag
  have shape : bracketed (c :: body) ++ rest = '[' :: c :: (body ++ ']' :: rest) := by simp [bracketed]
  rw [shape, tag?, if_pos starts, tagBody?_append clean]
  rfl

theorem isTag_of_tag? (found : tag? s = some (tag, rest)) : IsTag tag ∧ s = bracketed tag ++ rest := by
  unfold tag? at found
  split at found
  next c t =>
    split at found
    next starts =>
      obtain ⟨⟨body, rest⟩, inside, same⟩ := Option.map_eq_some_iff.mp found
      cases same
      obtain ⟨rfl, clean⟩ := tagBody?_eq_some inside
      exact ⟨⟨c, body, rfl, starts, clean⟩, by simp [bracketed]⟩
    next => cases found
  next => cases found

theorem tag?_of_ne {c : Char} (solid : c ≠ '[') (s : List Char) : tag? (c :: s) = none := by
  unfold tag?
  split
  next same => exact absurd (List.cons.inj same).1 solid
  next => rfl

end

/-! ## Escaped texts -/

inductive Escapes : List Char → List Char → Prop
  | nil : Escapes [] []
  | tag {tag s escaped : List Char} (isTag : IsTag tag) :
      Escapes s escaped → Escapes (bracketed tag ++ s) ('\\' :: (bracketed tag ++ escaped))
  | char {c : Char} {s escaped : List Char} (solid : c ≠ '\\') (noTag : tag? (c :: s) = none) :
      Escapes s escaped → Escapes (c :: s) (c :: escaped)

theorem escapeTags_tag {s tag rest : List Char} (found : tag? s = some (tag, rest)) (fuel : Nat) :
    escapeTags 0 (fuel + 1) s = '\\' :: (bracketed tag ++ escapeTags 0 fuel rest) := by
  rw [escapeTags.eq_def]
  simp only [found]
  rfl

theorem escapeTags_char {c : Char} {s : List Char} (solid : c ≠ '\\') (noTag : tag? (c :: s) = none) (fuel : Nat) :
    escapeTags 0 (fuel + 1) (c :: s) = c :: escapeTags 0 fuel s := by
  rw [escapeTags.eq_def]
  simp only [noTag]
  rfl

theorem escapes_escapeTags {s : List Char} (clean : '\\' ∉ s) {fuel : Nat} (enough : s.length < fuel) :
    Escapes s (escapeTags 0 fuel s) := by
  -- One unit of fuel is spent on a character or on a whole tag, so the rest of the text is never out of it.
  induction fuel generalizing s with
  | zero => exact absurd enough (Nat.not_lt_zero _)
  | succ fuel ih =>
      cases found : tag? s with
      | some pair =>
          obtain ⟨tag, rest⟩ := pair
          rw [escapeTags_tag found]
          obtain ⟨isTag, rfl⟩ := isTag_of_tag? found
          rw [List.mem_append, not_or] at clean
          rw [List.length_append, bracketed, List.length_append, List.length_cons] at enough
          exact .tag isTag (ih clean.2 (by omega))
      | none =>
          cases s with
          | nil => exact .nil
          | cons c s =>
              rw [List.mem_cons, not_or] at clean
              have solid : c ≠ '\\' := Ne.symm clean.1
              rw [escapeTags_char solid found]
              exact .char solid found (ih clean.2 (Nat.lt_of_succ_lt_succ enough))

namespace Escapes
variable {s escaped : List Char}

theorem getLast?_eq (h : Escapes s escaped) : escaped.getLast? = s.getLast? := by
  induction h with
  | nil => rfl
  | @tag tag s escaped _ _ ih => simp [bracketed, List.getLast?_append, List.getLast?_cons, ih]
  | char _ _ _ ih => simp [List.getLast?_cons, ih]

theorem tagBody?_eq_none (h : Escapes s escaped) (unclosed : tagBody? s = none) (rest : List Char) :
    tagBody? (escaped ++ '[' :: rest) = none := by
  induction h with
  | nil => rfl
  | tag => simp [bracketed, tagBody?]
  | @char c s escaped _ _ _ ih =>
      by_cases closing : c = ']'
      · subst closing
        cases unclosed
      by_cases opening : c = '['
      · subst opening
        rfl
      rw [tagBody?.eq_4 _ _ closing opening, Option.map_eq_none_iff] at unclosed
      rw [List.cons_append, tagBody?.eq_4 _ _ closing opening, ih unclosed]
      rfl

theorem tag?_eq_none (h : Escapes s escaped) (noTag : tag? ('[' :: s) = none) (rest : List Char) :
    tag? ('[' :: (escaped ++ '[' :: rest)) = none := by
  cases h with
  | nil => rfl
  | tag => rfl
  | @char c s escaped _ _ h =>
      rw [tag?] at noTag
      rw [List.cons_append, tag?]
      split at noTag
      next starts => rw [if_pos starts, h.tagBody?_eq_none (Option.map_eq_none_iff.mp noTag)]; rfl
      next other => rw [if_neg other]

end Escapes

theorem guardEnd_eq_self {s : List Char} (solid : s.getLast? ≠ some '\\') : guardEnd s = s := by
  rw [← List.head?_reverse] at solid
  unfold guardEnd
  split
  next last => rw [last] at solid; exact absurd rfl solid
  next last => rw [last] at solid; exact absurd rfl solid
  next => rfl

theorem escapes_escape {s : String} (clean : '\\' ∉ s.toList) : Escapes s.toList (escape s).toList := by
  have escapes := escapes_escapeTags clean (Nat.lt_succ_self s.toList.length)
  have solid : s.toList.getLast? ≠ some '\\' := fun last => clean (List.mem_of_getLast? last)
  rw [escape, String.toList_ofList, String.length_toList.symm, guardEnd_eq_self (escapes.getLast?_eq ▸ solid)]
  exact escapes

/-! ## Styles -/

structure IsStyle (name : List Char) : Prop where
  isTag : IsTag name
  opening : name.head? ≠ some '/' ∧ name.head? ≠ some '@'
  plain : '=' ∉ name
  trimmed : Text.trim name = name

namespace IsStyle
variable {name : List Char}

theorem nameOf_eq (style : IsStyle name) : nameOf name = name :=
  List.takeWhile_eq_self_iff.mpr fun c member => by simpa using fun same : c = '=' => style.plain (same ▸ member)

theorem isTag_closing (style : IsStyle name) : IsTag ('/' :: name) := by
  obtain ⟨c, body, rfl, starts, clean⟩ := style.isTag
  -- Behind the slash the first letter of the name is one of the inner ones.
  have first : c ≠ '[' ∧ c ≠ ']' := by
    constructor <;> rintro rfl <;> exact absurd starts (by decide)
  exact ⟨'/', c :: body, rfl, rfl, List.forall_mem_cons.mpr ⟨first, clean⟩⟩

theorem ne_nil (style : IsStyle name) : name ≠ [] := by
  obtain ⟨c, body, rfl, -⟩ := style.isTag
  exact List.cons_ne_nil c body

end IsStyle

section
variable [Dialect]

theorem IsStyle.ofTag_eq {name : List Char} (style : IsStyle name) : Opened.ofTag name = ⟨Dialect.styleName (String.ofList name), none⟩ := by
  have other : (name.head? == some '@') = false := by simpa using style.opening.2
  rw [Opened.ofTag, style.nameOf_eq, other]
  rfl

/-! ## What is shown -/

/-- With some tags open, parts of a text can be rendered, and show a text. -/
def Shows (opened : List Opened) (parts : List Part) (shown : List Char) : Prop :=
  ∃ pieces, piecesOf opened parts = .ok pieces ∧ pieces.flatMap (·.text) = shown

namespace Shows
variable {opened : List Opened} {parts : List Part} {shown s name : List Char} {position : Nat}

theorem text (kept : ∀ c ∈ s, isDropped c = false) (h : Shows opened parts shown) :
    Shows opened (.text s :: parts) (s ++ shown) := by
  obtain ⟨pieces, read, rfl⟩ := h
  have whole : s.filter (!isDropped ·) = s := List.filter_eq_self.mpr fun c member => by rw [kept c member]; rfl
  exact ⟨{ style := styleOf opened, text := s } :: pieces, by rw [piecesOf, read, whole]; rfl, rfl⟩

theorem addChar {c : Char} (kept : isDropped c = false) (h : Shows opened parts shown) :
    Shows opened (addChar c parts) (c :: shown) := by
  have alone : Shows opened (.text [c] :: parts) (c :: shown) := h.text (s := [c]) (by simpa using kept)
  cases parts with
  | nil => exact alone
  | cons part parts =>
      cases part with
      | tag position name => exact alone
      | text s =>
          obtain ⟨pieces, read, rfl⟩ := h
          obtain ⟨others, inner, rfl⟩ := ok_of_map read
          refine ⟨{ style := styleOf opened, text := c :: s.filter (!isDropped ·) } :: others, ?_, rfl⟩
          rw [Markup.addChar, piecesOf, inner]
          simp [kept, Except.map]

theorem addChars (kept : ∀ c ∈ s, isDropped c = false) (h : Shows opened parts shown) :
    Shows opened (addChars s parts) (s ++ shown) := by
  induction s with
  | nil => exact h
  | cons c s ih =>
      obtain ⟨first, others⟩ := List.forall_mem_cons.mp kept
      exact (ih others).addChar first

theorem opens {c : Char} (opening : c ≠ '/') (h : Shows (.ofTag (c :: name) :: opened) parts shown) :
    Shows opened (.tag position (c :: name) :: parts) shown := by
  obtain ⟨pieces, read, shows⟩ := h
  refine ⟨pieces, ?_, shows⟩
  rwa [piecesOf.eq_4 _ _ _ _ fun _ same => opening (List.cons.inj same).1]

theorem closes (style : IsStyle name) (h : Shows opened parts shown) :
    Shows (.ofTag name :: opened) (.tag position ('/' :: name) :: parts) shown := by
  obtain ⟨pieces, read, shows⟩ := h
  have closed : takeClosed (.ofTag name :: opened) position name = .ok (.ofTag name, opened) := by
    have named : name.isEmpty = false := by simpa using style.ne_nil
    simp [takeClosed, style.nameOf_eq, style.trimmed, named, style.ofTag_eq, close?]
  refine ⟨pieces, ?_, shows⟩
  rw [piecesOf, closed, style.ofTag_eq]
  exact read

end Shows

/-! ## Marked-up texts -/

/-- With some tags open, a marked-up text can be read wherever it stands, and shows a text. -/
def Reads (opened : List Opened) (marked shown : List Char) : Prop :=
  ∀ position fuel, marked.length < fuel → Shows opened (splitParts 0 position fuel marked) shown

def IsOrdinary (c : Char) : Prop := c ≠ '[' ∧ c ≠ '\\' ∧ isDropped c = false

instance : DecidablePred IsOrdinary := fun c =>
  inferInstanceAs (Decidable (c ≠ '[' ∧ c ≠ '\\' ∧ isDropped c = false))

namespace Reads
variable {opened : List Opened} {marked shown tag : List Char}

theorem of_step (step : ∀ position fuel, marked.length ≤ fuel →
    Shows opened (splitParts 0 position (fuel + 1) marked) shown) : Reads opened marked shown := by
  intro position fuel enough
  cases fuel with
  | zero => exact absurd enough (Nat.not_lt_zero _)
  | succ fuel => exact step position fuel (Nat.le_of_lt_succ enough)

theorem nil : Reads opened [] [] :=
  of_step fun _ _ _ => ⟨[], rfl, rfl⟩

theorem char {c : Char} (ordinary : IsOrdinary c) (h : Reads opened marked shown) :
    Reads opened (c :: marked) (c :: shown) := by
  obtain ⟨opening, solid, kept⟩ := ordinary
  refine of_step fun position fuel enough => ?_
  have parts : splitParts 0 position (fuel + 1) (c :: marked) =
      addChar c (splitParts 0 (position + 1) fuel marked) := by
    rw [splitParts.eq_def]
    simp only [tag?_of_ne opening]
    rfl
  rw [parts]
  exact (h (position + 1) fuel enough).addChar kept

theorem ordinary {s : List Char} (all : ∀ c ∈ s, IsOrdinary c) (h : Reads opened marked shown) :
    Reads opened (s ++ marked) (s ++ shown) := by
  induction s with
  | nil => exact h
  | cons c s ih =>
      obtain ⟨first, others⟩ := List.forall_mem_cons.mp all
      exact (ih others).char first

theorem bracket (noTag : tag? ('[' :: marked) = none) (h : Reads opened marked shown) :
    Reads opened ('[' :: marked) ('[' :: shown) := by
  refine of_step fun position fuel enough => ?_
  have parts : splitParts 0 position (fuel + 1) ('[' :: marked) =
      addChar '[' (splitParts 0 (position + 1) fuel marked) := by
    rw [splitParts.eq_def]
    simp only [noTag]
    rfl
  rw [parts]
  exact (h (position + 1) fuel enough).addChar rfl

theorem escapedTag (isTag : IsTag tag) (kept : ∀ c ∈ bracketed tag, isDropped c = false)
    (h : Reads opened marked shown) :
    Reads opened ('\\' :: (bracketed tag ++ marked)) (bracketed tag ++ shown) := by
  refine of_step fun position fuel enough => ?_
  rw [List.length_cons, List.length_append] at enough
  obtain ⟨fuel, rfl⟩ : ∃ k, fuel = k + 1 := ⟨fuel - 1, by omega⟩
  have parts : splitParts 0 position (fuel + 1 + 1) ('\\' :: (bracketed tag ++ marked)) =
      addChars (bracketed tag) (splitParts 0 (position + 1 + tag.length + 2) fuel marked) := by
    rw [splitParts.eq_def]
    simp only [tag?_of_ne (by decide : '\\' ≠ '[')]
    rw [splitParts.eq_def]
    simp only [isTag.tag?_append]
    rfl
  rw [parts]
  refine (h _ fuel ?_).addChars kept
  rw [bracketed, List.length_append, List.length_cons] at enough
  omega

theorem of_tag (isTag : IsTag tag) (h : ∀ position fuel, marked.length < fuel →
      Shows opened (.tag position tag :: splitParts 0 (position + tag.length + 2) fuel marked) shown) :
    Reads opened (bracketed tag ++ marked) shown := by
  refine of_step fun position fuel enough => ?_
  rw [List.length_append, bracketed, List.length_append, List.length_cons] at enough
  have parts : splitParts 0 position (fuel + 1) (bracketed tag ++ marked) =
      .tag position tag :: splitParts 0 (position + tag.length + 2) fuel marked := by
    rw [splitParts.eq_def]
    simp only [isTag.tag?_append]
    rfl
  rw [parts]
  exact h position fuel (by omega)

end Reads

namespace Reads
variable {opened : List Opened} {marked shown name : List Char}

theorem opens (style : IsStyle name) (h : Reads (.ofTag name :: opened) marked shown) :
    Reads opened (bracketed name ++ marked) shown := by
  refine of_tag style.isTag fun position fuel enough => ?_
  obtain ⟨c, body, rfl, -⟩ := style.isTag
  exact (h _ fuel enough).opens fun same => style.opening.1 (congrArg some same)

theorem closes (style : IsStyle name) (h : Reads opened marked shown) :
    Reads (.ofTag name :: opened) (bracketed ('/' :: name) ++ marked) shown :=
  of_tag style.isTag_closing fun _ fuel enough => (h _ fuel enough).closes style

end Reads

/-- In front of a bracket a marked-up text is read, and shows a text; what is shown behind it does not change. -/
def Spells (marked shown : List Char) : Prop :=
  ∀ opened rest behind, Reads opened ('[' :: rest) behind → Reads opened (marked ++ '[' :: rest) (shown ++ behind)

theorem spells_ordinary {s : List Char} (all : ∀ c ∈ s, IsOrdinary c) : Spells s s :=
  fun _ _ _ h => h.ordinary all

theorem Spells.ordinary_append {s marked shown : List Char} (all : ∀ c ∈ s, IsOrdinary c) (h : Spells marked shown) :
    Spells (s ++ marked) (s ++ shown) := by
  intro opened rest behind reads
  simpa only [List.append_assoc] using (h opened rest behind reads).ordinary all

theorem Escapes.spells {s escaped : List Char} (h : Escapes s escaped) (kept : ∀ c ∈ s, isDropped c = false) :
    Spells escaped s := by
  intro opened rest behind reads
  induction h with
  | nil => exact reads
  | tag isTag _ ih =>
      obtain ⟨inTag, after⟩ := List.forall_mem_append.mp kept
      simpa only [List.cons_append, List.append_assoc] using (ih after).escapedTag isTag inTag
  | @char c s escaped solid noTag h ih =>
      obtain ⟨first, others⟩ := List.forall_mem_cons.mp kept
      -- A bracket that starts no tag in the text must not start one together with what stands behind the text.
      by_cases opening : c = '['
      · subst opening
        exact (ih others).bracket (h.tag?_eq_none noTag rest)
      · exact (ih others).char ⟨opening, solid, first⟩

theorem spells_escape {s : String} (clean : '\\' ∉ s.toList) (kept : ∀ c ∈ s.toList, isDropped c = false) :
    Spells (escape s).toList s.toList :=
  (escapes_escape clean).spells kept

theorem Reads.styled {opened : List Opened} {name marked shown rest behind : List Char} (style : IsStyle name)
    (inner : Spells marked shown) (h : Reads opened rest behind) :
    Reads opened (bracketed name ++ (marked ++ (bracketed ('/' :: name) ++ rest))) (shown ++ behind) :=
  .opens style (inner _ _ _ (h.closes style))

end

/-! ## Printing -/

theorem flatMap_expandTabs {s : List Char} (untabbed : '\t' ∉ s) (style : Style) (column : Nat)
    (pending : List Char) :
    (expandTabs style column pending s).1.flatMap (·.text) = pending.reverse ++ s := by
  fun_induction expandTabs style column pending s with
  | case1 => simp
  | case2 column pending rest pieces column' expanded ih =>
      have inner := ih (fun tab => untabbed (List.mem_cons_of_mem _ tab))
      rw [expanded] at inner
      simpa using inner
  | case3 => exact absurd List.mem_cons_self untabbed
  | case4 column pending c rest feed tab ih =>
      have inner := ih (fun tab => untabbed (List.mem_cons_of_mem _ tab))
      simpa using inner

theorem flatMap_layOut {pieces : List Piece} (untabbed : '\t' ∉ pieces.flatMap (·.text)) (column : Nat) :
    (layOut column pieces).flatMap (·.text) = pieces.flatMap (·.text) := by
  induction pieces generalizing column with
  | nil => rfl
  | cons piece pieces ih =>
      rw [List.flatMap_cons, List.mem_append, not_or] at untabbed
      have first := flatMap_expandTabs untabbed.1 piece.style column []
      simp only [layOut, List.flatMap_append, List.flatMap_cons, first, ih untabbed.2]
      rfl

theorem print_render [Dialect] {s shown : String} (reads : Reads [] s.toList shown.toList) (untabbed : '\t' ∉ shown.toList) :
    (render s).map (print false) = .ok shown := by
  have enough : s.toList.length < s.length + 1 := String.length_toList ▸ Nat.lt_succ_self _
  obtain ⟨pieces, read, shows⟩ := reads 0 (s.length + 1) enough
  have printed : print false pieces = String.ofList (pieces.flatMap (·.text)) := by
    rw [← flatMap_layOut (shows ▸ untabbed) 0]
    rfl
  rw [render, parts, read, Except.map, printed, shows, String.ofList_toList]

end EnvAudit.Markup
