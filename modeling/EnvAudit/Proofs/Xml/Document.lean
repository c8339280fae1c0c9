import EnvAudit.Proofs.Workspace.Saving
import EnvAudit.Proofs.Xml.Element

namespace EnvAudit.Xml
open Workspace

namespace Element

/-! ## Legal characters -/

mutual

def isLegal : Element → Bool
  | .mk _ attributes text children =>
    attributes.all (fun (_, value) => value.toList.all Xml.isLegal) && text.toList.all Xml.isLegal &&
      areLegal children

def areLegal : List Element → Bool
  | [] => true
  | child :: children => isLegal child && areLegal children

end

theorem areLegal_eq_all (children : List Element) : areLegal children = children.all isLegal := by
  induction children with
  | nil => rfl
  | cons child children ih => rw [areLegal, ih, List.all_cons]

theorem isLegal_of_isNameChar {c : Char} (h : isNameChar c = true) : Xml.isLegal c = true := by
  simp only [isNameChar, isNameStart, inRanges, List.any_cons, List.any_nil, Bool.or_eq_true, Bool.and_eq_true,
    decide_eq_true_eq, Bool.false_eq_true, or_false] at h
  simp only [Xml.isLegal, inRanges, List.any_cons, List.any_nil, Bool.or_eq_true, Bool.and_eq_true,
    decide_eq_true_eq, Bool.false_eq_true, or_false]
  omega

theorem all_isLegal_name {name : List Char} (named : isName name = true) : name.all Xml.isLegal = true :=
  List.all_eq_true.mpr fun _ member => isLegal_of_isNameChar (isNameChar_of_mem named member)

theorem all_isLegal_writeText (s : String) : (writeText s).all Xml.isLegal = s.toList.all Xml.isLegal :=
  escapes_textChar.all_iff (by decide) s.toList

theorem all_isLegal_head {name : String} {attributes : List (String × String)} (named : isName name.toList = true)
    (names : ∀ pair ∈ attributes, isName pair.1.toList = true) :
    ('<' :: name.toList ++ attributes.flatMap writeAttribute).all Xml.isLegal =
      attributes.all fun (_, value) => value.toList.all Xml.isLegal := by
  have sign : Xml.isLegal '<' = true := by decide
  rw [List.all_append, List.all_cons, sign, all_isLegal_name named, Bool.true_and, Bool.true_and, List.all_flatMap]
  rw [Bool.eq_iff_iff, List.all_eq_true, List.all_eq_true]
  refine forall₂_congr fun pair member => ?_
  obtain ⟨own, value⟩ := pair
  have legal := all_isLegal_name (names _ member)
  have escaped := escapes_attributeChar.all_iff (p := Xml.isLegal) (by decide) value.toList
  have signs : Xml.isLegal ' ' = true ∧ Xml.isLegal '=' = true ∧ Xml.isLegal '"' = true := by decide
  simp only [writeAttribute, List.all_append, List.all_cons, escaped, legal, signs, List.all_nil, Bool.true_and,
    Bool.and_true]

theorem all_isLegal_endTag {name : List Char} (named : isName name = true) :
    ('<' :: '/' :: name ++ ['>']).all Xml.isLegal = true := by
  have signs : Xml.isLegal '<' = true ∧ Xml.isLegal '/' = true ∧ Xml.isLegal '>' = true := by decide
  simp only [List.all_append, List.all_cons, List.all_nil, all_isLegal_name named, signs, Bool.true_and]

theorem all_isLegal_breakAt (indent : Indent) (level : Nat) : (breakAt indent level).all Xml.isLegal = true := by
  rw [List.all_eq_true]
  intro c member
  rcases mem_breakAt member with rfl | rfl <;> decide

theorem all_isLegal_writeChildren {indent : Indent} {level : Nat} {children : List Element}
    (each : ∀ child ∈ children, (write indent level child).all Xml.isLegal = child.isLegal) :
    (writeChildren indent level children).all Xml.isLegal = children.all isLegal := by
  induction children with
  | nil => rfl
  | cons child children ih =>
      rw [List.forall_mem_cons] at each
      rw [writeChildren, List.all_append, List.all_append, all_isLegal_breakAt, each.1, ih each.2, List.all_cons,
        Bool.true_and]

theorem IsWritable.all_isLegal_write {e : Element} (h : e.IsWritable) (indent : Indent) : ∀ level,
    (write indent level e).all Xml.isLegal = e.isLegal := by
  have sign : Xml.isLegal '>' = true := by decide
  induction h with
  | @leaf name attributes text named names distinct =>
      intro level
      by_cases empty : text = ""
      · subst empty
        have tail : [' ', '/', '>'].all Xml.isLegal = true := by decide
        rw [write_leaf_empty, List.all_append, all_isLegal_head named names, tail, isLegal, areLegal]
        simp
      · rw [write_leaf indent level name attributes empty, List.all_append, all_isLegal_head named names,
          List.all_cons, sign, List.all_append, all_isLegal_writeText, all_isLegal_endTag named, isLegal, areLegal]
        simp only [Bool.true_and, Bool.and_true]
  | @parent name attributes first others named names distinct _ ih =>
      intro level
      have children := all_isLegal_writeChildren fun child member => ih child member (level + 1)
      rw [write_parent, List.all_append, all_isLegal_head named names, List.all_cons, sign, List.all_append, children,
        List.all_append, all_isLegal_breakAt, all_isLegal_endTag named, isLegal, areLegal_eq_all]
      simp

/-! ## Line ends -/

end Element

theorem head?_writeText {s : List Char} (h : s.head? ≠ some '\n') (t : List Char) :
    (s.flatMap textChar ++ '<' :: t).head? ≠ some '\n' := by
  cases s with
  | nil => simp
  | cons c s =>
      rcases escapes_textChar c with written | ⟨plain, -⟩
      · simp only [textEscapes, List.mem_cons, List.not_mem_nil, or_false, Prod.mk.injEq] at written
        rcases written with ⟨-, written⟩ | ⟨-, written⟩ | ⟨-, written⟩ <;>
          simp [written]
      · simpa [plain] using h

theorem unifyLineEnds_writeText (s t : List Char) :
    unifyLineEnds (s.flatMap textChar ++ '<' :: t) =
      (unifyLineEnds s).flatMap textChar ++ '<' :: unifyLineEnds t := by
  fun_induction unifyLineEnds s with
  | case1 => exact unifyLineEnds_cons (by decide) t
  | case2 rest ih =>
      have shape : ('\r' :: '\n' :: rest).flatMap textChar ++ '<' :: t =
          '\r' :: '\n' :: (rest.flatMap textChar ++ '<' :: t) := rfl
      rw [shape, unifyLineEnds, ih]
      rfl
  | case3 rest last ih =>
      have shape : ('\r' :: rest).flatMap textChar ++ '<' :: t = '\r' :: (rest.flatMap textChar ++ '<' :: t) := rfl
      have noFeed : (rest.flatMap textChar ++ '<' :: t).head? ≠ some '\n' := by
        apply head?_writeText
        intro feed
        obtain ⟨behind, rfl⟩ := List.head?_eq_some_iff.mp feed
        exact last behind rfl
      rw [shape, unifyLineEnds, ih]
      · rfl
      · intro behind same
        exact noFeed (by rw [same]; rfl)
  | case4 c rest _ noReturn ih =>
      have clean : '\r' ∉ textChar c := by
        rcases escapes_textChar c with written | ⟨plain, -⟩
        · have all : ∀ pair ∈ textEscapes, '\r' ∉ pair.2 := by decide
          exact all _ written
        · rw [plain, List.mem_singleton]
          exact fun same => noReturn same.symm
      rw [List.flatMap_cons, List.flatMap_cons, List.append_assoc, unifyLineEnds_append clean, ih, List.append_assoc]

namespace Element

mutual

/-- An element with unified line ends in its texts; in attributes they are written as references. -/
def unified : Element → Element
  | .mk name attributes text children =>
    .mk name attributes (String.ofList (unifyLineEnds text.toList)) (allUnified children)

def allUnified : List Element → List Element
  | [] => []
  | child :: children => unified child :: allUnified children

end

theorem allUnified_eq_map (children : List Element) : allUnified children = children.map unified := by
  induction children with
  | nil => rfl
  | cons child children ih => rw [allUnified, ih, List.map_cons]

theorem IsWritable.unified {e : Element} (h : e.IsWritable) : e.unified.IsWritable := by
  induction h with
  | leaf text named names distinct => exact .leaf _ named names distinct
  | parent named names distinct _ ih =>
      refine .parent named names distinct ?_
      rw [allUnified_eq_map, ← List.map_cons, List.forall_mem_map]
      exact ih

theorem return_notMem_name {name : List Char} (named : isName name = true) : '\r' ∉ name :=
  fun member => absurd (isNameChar_of_mem named member) (by decide)

theorem return_notMem_head {name : String} {attributes : List (String × String)} (named : isName name.toList = true)
    (names : ∀ pair ∈ attributes, isName pair.1.toList = true) :
    '\r' ∉ '<' :: name.toList ++ attributes.flatMap writeAttribute := by
  intro member
  rcases List.mem_append.mp member with start | rest
  · rcases List.mem_cons.mp start with sign | inName
    · exact absurd sign (by decide)
    · exact return_notMem_name named inName
  · obtain ⟨pair, listed, written⟩ := List.mem_flatMap.mp rest
    have own := return_notMem_name (names pair listed)
    have value : '\r' ∉ pair.2.toList.flatMap attributeChar :=
      escapes_attributeChar.notMem (by decide) (by decide) _
    simp [writeAttribute, own, value] at written

theorem return_notMem_breakAt (indent : Indent) (level : Nat) : '\r' ∉ breakAt indent level := by
  intro member
  rcases mem_breakAt member with same | same <;> exact absurd same (by decide)

theorem unifyLineEnds_endTag {name : List Char} (named : isName name = true) (t : List Char) :
    unifyLineEnds ('/' :: name ++ '>' :: t) = '/' :: name ++ '>' :: unifyLineEnds t := by
  have clean : '\r' ∉ '/' :: name ++ ['>'] := by simp [return_notMem_name named]
  simpa using unifyLineEnds_append clean t

theorem unifyLineEnds_writeChildren {indent : Indent} {level : Nat} {children : List Element}
    (each : ∀ child ∈ children, ∀ t, unifyLineEnds (write indent level child ++ t) =
      write indent level child.unified ++ unifyLineEnds t) (t : List Char) :
    unifyLineEnds (writeChildren indent level children ++ t) =
      writeChildren indent level (children.map unified) ++ unifyLineEnds t := by
  induction children with
  | nil => rfl
  | cons child children ih =>
      rw [List.forall_mem_cons] at each
      rw [writeChildren, List.append_assoc, List.append_assoc,
        unifyLineEnds_append (return_notMem_breakAt indent level), each.1, ih each.2, List.map_cons, writeChildren,
        List.append_assoc, List.append_assoc]

theorem IsWritable.unifyLineEnds_write {e : Element} (h : e.IsWritable) (indent : Indent) : ∀ level t,
    unifyLineEnds (write indent level e ++ t) = write indent level e.unified ++ unifyLineEnds t := by
  induction h with
  | @leaf name attributes text named names distinct =>
      intro level t
      have head := return_notMem_head named names
      by_cases empty : text = ""
      · subst empty
        have clean : '\r' ∉ write indent level (.mk name attributes "" []) := by
          rw [write_leaf_empty, List.mem_append]
          exact not_or.mpr ⟨head, by decide⟩
        exact unifyLineEnds_append clean t
      · have solid : String.ofList (unifyLineEnds text.toList) ≠ "" := by
          have chars : unifyLineEnds text.toList ≠ [] := unifyLineEnds_ne_nil (by simpa using empty)
          simpa [← String.toList_inj] using chars
        have behind : unifyLineEnds ('>' :: (writeText text ++ '<' :: ('/' :: name.toList ++ '>' :: t))) =
            '>' :: (writeText (String.ofList (unifyLineEnds text.toList)) ++
              '<' :: ('/' :: name.toList ++ '>' :: unifyLineEnds t)) := by
          rw [unifyLineEnds_cons (by decide), writeText, unifyLineEnds_writeText, unifyLineEnds_endTag named,
            writeText, String.toList_ofList]
        have whole := unifyLineEnds_append head
          ('>' :: (writeText text ++ '<' :: ('/' :: name.toList ++ '>' :: t)))
        rw [Element.unified, allUnified, write_leaf indent level name attributes empty,
          write_leaf indent level name attributes solid]
        rw [behind] at whole
        simpa using whole
  | @parent name attributes first others named names distinct _ ih =>
      intro level t
      have head := return_notMem_head named names
      have children (t : List Char) := unifyLineEnds_writeChildren (fun child member => ih child member (level + 1)) t
      have tail : unifyLineEnds (breakAt indent level ++ '<' :: ('/' :: name.toList ++ '>' :: t)) =
          breakAt indent level ++ '<' :: ('/' :: name.toList ++ '>' :: unifyLineEnds t) := by
        rw [unifyLineEnds_append (return_notMem_breakAt indent level), unifyLineEnds_cons (by decide),
          unifyLineEnds_endTag named]
      have behind : unifyLineEnds ('>' :: (writeChildren indent (level + 1) (first :: others) ++
            (breakAt indent level ++ '<' :: ('/' :: name.toList ++ '>' :: t)))) =
          '>' :: (writeChildren indent (level + 1) ((first :: others).map Element.unified) ++
            (breakAt indent level ++ '<' :: ('/' :: name.toList ++ '>' :: unifyLineEnds t))) := by
        rw [unifyLineEnds_cons (by decide), children, tail]
      have whole := unifyLineEnds_append head ('>' :: (writeChildren indent (level + 1) (first :: others) ++
        (breakAt indent level ++ '<' :: ('/' :: name.toList ++ '>' :: t))))
      have kept : String.ofList (unifyLineEnds "".toList) = "" := rfl
      rw [Element.unified, allUnified_eq_map, kept, List.map_cons, write_parent, write_parent]
      rw [behind, List.map_cons] at whole
      simpa using whole

end Element

/-! ## Documents -/

/-- A written element is read back if it holds legal characters only; its attributes are as they were, and the line
ends of its texts are unified. Otherwise there is no reading it. -/
theorem read_document {e : Element} (h : e.IsWritable) (indent : Indent) :
    read (String.ofList (declaration ++ '\n' :: write indent 0 e)) =
      if e.isLegal then some (e.unified.node indent 0) else none := by
  have start : declaration.all isLegal = true ∧ isLegal '\n' = true := by decide
  rw [read, String.toList_ofList, List.all_append, List.all_cons, start.1, start.2, Bool.true_and, Bool.true_and,
    h.all_isLegal_write indent 0]
  refine if_congr Iff.rfl ?_ rfl
  have unify : unifyLineEnds (declaration ++ '\n' :: write indent 0 e) =
      declaration ++ '\n' :: write indent 0 e.unified := by
    have rest := h.unifyLineEnds_write indent 0 []
    rw [List.append_nil, unifyLineEnds, List.append_nil] at rest
    rw [unifyLineEnds_append (by decide), unifyLineEnds_cons (by decide), rest]
  have front : run .prolog ('\n' :: write indent 0 e.unified) = some (.epilog (e.unified.node indent 0)) := by
    have space : step .prolog '\n' = some .prolog := rfl
    rw [run_cons, space, Option.bind_some]
    exact h.unified.run_write indent 0 .prolog [] rfl
  simp only [unify, List.prefix_append, if_true, List.drop_left, front, Option.bind_some, State.root?]

end EnvAudit.Xml
