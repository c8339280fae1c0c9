import EnvAudit.EnvFile.Parser
import EnvAudit.Proofs.EnvFile.Key
import EnvAudit.Proofs.EnvFile.Lines
import Mathlib.Data.List.Basic

namespace EnvAudit
open Text

namespace Line

inductive Kind where
  | blank
  | comment
  | assignment
  | malformed
  deriving DecidableEq

def kind : Line → Kind
  | blank => .blank
  | comment _ => .comment
  | assignment _ _ => .assignment
  | malformed _ => .malformed

/-! ## The numbers of the lines of a kind -/

def numbersOf (kind : Kind) (start : Nat) (lines : List Line) : List Int :=
  (lines.zipIdx start).filterMap fun (line, n) => if line.kind = kind then some (n : Int) else none

theorem numbersOf_cons (kind : Kind) (start : Nat) (line : Line) (lines : List Line) :
    numbersOf kind start (line :: lines) =
      (if line.kind = kind then [(start : Int)] else []) ++ numbersOf kind (start + 1) lines := by
  unfold numbersOf
  rw [List.zipIdx_cons, List.filterMap_cons]
  by_cases same : line.kind = kind <;> simp [same]

theorem mem_numbersOf {kind : Kind} {start : Nat} {lines : List Line} {n : Int} :
    n ∈ numbersOf kind start lines ↔
      ∃ i, ∃ _ : i < lines.length, lines[i].kind = kind ∧ n = start + i := by
  simp only [numbersOf, List.mem_filterMap, Prod.exists, List.mk_mem_zipIdx_iff_le_and_getElem?_sub]
  constructor
  · rintro ⟨line, m, ⟨le, found⟩, same⟩
    obtain ⟨bound, rfl⟩ := List.getElem?_eq_some_iff.mp found
    split at same
    · rename_i isKind
      refine ⟨m - start, bound, isKind, ?_⟩
      rw [← Option.some.inj same]
      omega
    · cases same
  · rintro ⟨i, bound, isKind, rfl⟩
    refine ⟨lines[i], start + i, ⟨Nat.le_add_right _ _, ?_⟩, by simp [isKind]⟩
    rw [Nat.add_sub_cancel_left, List.getElem?_eq_getElem bound]

theorem numbersOf_pairwise (kind : Kind) (start : Nat) (lines : List Line) :
    (numbersOf kind start lines).Pairwise (· < ·) := by
  induction lines generalizing start with
  | nil => exact .nil
  | cons line lines ih =>
      rw [numbersOf_cons, List.pairwise_append]
      refine ⟨by split <;> simp, ih (start + 1), fun n hn m hm => ?_⟩
      obtain ⟨i, -, -, rfl⟩ := mem_numbersOf.mp hm
      have first : n = start := by
        split at hn
        · simpa using hn
        · cases hn
      omega

theorem numbersOf_disjoint {kind other : Kind} (different : kind ≠ other) (start : Nat)
    (lines : List Line) : (numbersOf kind start lines).Disjoint (numbersOf other start lines) := by
  intro n hn hm
  obtain ⟨i, _, isKind, rfl⟩ := mem_numbersOf.mp hn
  obtain ⟨j, _, isOther, same⟩ := mem_numbersOf.mp hm
  have index : i = j := by omega
  subst index
  exact different (isKind.symm.trans isOther)

theorem length_numbersOf (kind : Kind) (start : Nat) (lines : List Line) :
    (numbersOf kind start lines).length = (lines.map Line.kind).count kind := by
  induction lines generalizing start with
  | nil => rfl
  | cons line lines ih =>
      rw [numbersOf_cons, List.length_append, ih, List.map_cons, List.count_cons]
      by_cases same : line.kind = kind <;> simp [same, Nat.add_comm]

theorem count_kinds (kinds : List Kind) :
    kinds.count .assignment + kinds.count .malformed + kinds.count .blank + kinds.count .comment =
      kinds.length := by
  induction kinds with
  | nil => rfl
  | cons kind kinds ih => cases kind <;> simp <;> omega

/-! ## The kind of a line by its text -/

theorem kind_readAssignment {s : List Char} (clean : '\n' ∉ s) :
    ((readAssignment s).kind = .assignment ↔ StartsAssignment s) ∧
      ((readAssignment s).kind = .malformed ↔ ¬ StartsAssignment s) := by
  rw [← isSome_splitAssignment?_iff clean, readAssignment]
  cases splitAssignment? s with
  | none => simp [kind]
  | some pair => simp [kind]

theorem kind_read {raw : List Char} (clean : '\n' ∉ raw) :
    ((read raw).kind = .blank ↔ trim raw = []) ∧
      ((read raw).kind = .comment ↔ (trim raw).head? = some '#') ∧
      ((read raw).kind = .assignment ↔
        trim raw ≠ [] ∧ (trim raw).head? ≠ some '#' ∧ StartsAssignment (trim raw)) ∧
      ((read raw).kind = .malformed ↔
        trim raw ≠ [] ∧ (trim raw).head? ≠ some '#' ∧ ¬ StartsAssignment (trim raw)) := by
  by_cases blank : trim raw = []
  · rw [read_of_blank blank, blank]
    simp [kind]
  · by_cases comment : (trim raw).head? = some '#'
    · rw [read_of_comment comment]
      simp [kind, comment, blank]
    · obtain ⟨assigns, fails⟩ := kind_readAssignment fun m => clean (trim_subset raw m)
      rw [read_of_solid blank comment, assigns, fails]
      unfold readAssignment
      cases splitAssignment? (trim raw) <;> simp [kind, blank, comment]

end Line

/-! ## Files -/

namespace EnvFile

/-- The lists of a file against the lines of the text that it was read from; the `i`-th line, counted from
zero, has the number `i + 1`. The comments are not numbered, so a comment line is one that the other lists leave
out. -/
structure Accounts (file : EnvFile) (lines : List (List Char)) : Prop where
  assigned_increase : (file.assignments.map (·.line)).Pairwise (· < ·)
  malformed_increase : (file.malformed.map (·.line)).Pairwise (· < ·)
  blank_increase : file.blankLines.Pairwise (· < ·)
  assigned_malformed : (file.assignments.map (·.line)).Disjoint (file.malformed.map (·.line))
  assigned_blank : (file.assignments.map (·.line)).Disjoint file.blankLines
  malformed_blank : (file.malformed.map (·.line)).Disjoint file.blankLines
  inside : ∀ n ∈ file.assignments.map (·.line) ++ file.malformed.map (·.line) ++ file.blankLines,
    1 ≤ n ∧ n ≤ lines.length
  total : file.assignments.length + file.malformed.length + file.blankLines.length +
    file.comments.length = lines.length
  blank_iff : ∀ i (h : i < lines.length), (i : Int) + 1 ∈ file.blankLines ↔ trim lines[i] = []
  comment_iff : ∀ i (h : i < lines.length),
    ((i : Int) + 1 ∉ file.assignments.map (·.line) ++ file.malformed.map (·.line) ++ file.blankLines) ↔
      (trim lines[i]).head? = some '#'
  assigned_iff : ∀ i (h : i < lines.length), (i : Int) + 1 ∈ file.assignments.map (·.line) ↔
    trim lines[i] ≠ [] ∧ (trim lines[i]).head? ≠ some '#' ∧ StartsAssignment (trim lines[i])
  malformed_iff : ∀ i (h : i < lines.length), (i : Int) + 1 ∈ file.malformed.map (·.line) ↔
    trim lines[i] ≠ [] ∧ (trim lines[i]).head? ≠ some '#' ∧ ¬ StartsAssignment (trim lines[i])
  comments_eq : file.comments =
    (lines.filter fun line => (trim line).head? == some '#').map
      fun line => String.ofList (trim ((trim line).drop 1))

section
variable (lines : List Line)

theorem assignments_ofLines :
    (ofLines (lines.zipIdx 1)).assignments.map (·.line) = Line.numbersOf .assignment 1 lines := by
  rw [ofLines, List.map_filterMap]
  refine List.filterMap_congr fun (line, n) _ => ?_
  cases line <;> rfl

theorem malformed_ofLines :
    (ofLines (lines.zipIdx 1)).malformed.map (·.line) = Line.numbersOf .malformed 1 lines := by
  rw [ofLines, List.map_filterMap]
  refine List.filterMap_congr fun (line, n) _ => ?_
  cases line <;> rfl

theorem blankLines_ofLines :
    (ofLines (lines.zipIdx 1)).blankLines = Line.numbersOf .blank 1 lines := by
  refine List.filterMap_congr fun (line, n) _ => ?_
  cases line <;> rfl

theorem comments_ofLines :
    (ofLines (lines.zipIdx 1)).comments = lines.filterMap Line.comment? := by
  conv_rhs => rw [← List.zipIdx_map_fst 1 lines, List.filterMap_map]
  rfl

end

theorem mem_numbersOf_map {kind : Line.Kind} {raws : List (List Char)} {i : Nat} (h : i < raws.length) :
    (i : Int) + 1 ∈ Line.numbersOf kind 1 (raws.map Line.read) ↔ (Line.read raws[i]).kind = kind := by
  rw [Line.mem_numbersOf]
  constructor
  · rintro ⟨j, bound, isKind, same⟩
    have index : j = i := by omega
    subst index
    simpa using isKind
  · intro isKind
    exact ⟨i, by simpa using h, by simpa using isKind, by omega⟩

theorem comment?_read {raw : List Char} :
    (Line.read raw).comment? =
      if (trim raw).head? == some '#' then some (String.ofList (trim ((trim raw).drop 1))) else none := by
  by_cases comment : (trim raw).head? = some '#'
  · rw [Line.read_of_comment comment]
    simp [Line.comment?, comment]
  · by_cases blank : trim raw = []
    · rw [Line.read_of_blank blank]
      simp [Line.comment?, comment]
    · rw [Line.read_of_solid blank comment, Line.readAssignment]
      cases splitAssignment? (trim raw) <;> simp [Line.comment?, comment]

theorem filterMap_comment?_read (raws : List (List Char)) :
    (raws.map Line.read).filterMap Line.comment? =
      (raws.filter fun raw => (trim raw).head? == some '#').map
        fun raw => String.ofList (trim ((trim raw).drop 1)) := by
  induction raws with
  | nil => rfl
  | cons raw raws ih =>
      rw [List.map_cons, List.filterMap_cons, comment?_read, List.filter_cons, ih]
      by_cases comment : ((trim raw).head? == some '#') = true
      · rw [if_pos comment, if_pos comment]
        rfl
      · rw [if_neg comment, if_neg comment]

theorem length_comments (lines : List Line) :
    (lines.filterMap Line.comment?).length = (lines.map Line.kind).count .comment := by
  induction lines with
  | nil => rfl
  | cons line lines ih =>
      rw [List.filterMap_cons]
      cases line <;> simpa [Line.comment?, Line.kind] using ih

theorem accounts_ofLines {raws : List (List Char)} (clean : ∀ raw ∈ raws, '\n' ∉ raw) :
    (ofLines ((raws.map Line.read).zipIdx 1)).Accounts raws := by
  have assigned := assignments_ofLines (raws.map Line.read)
  have malformed := malformed_ofLines (raws.map Line.read)
  have blank := blankLines_ofLines (raws.map Line.read)
  have comments := comments_ofLines (raws.map Line.read)
  have kinds (i : Nat) (h : i < raws.length) := Line.kind_read (clean raws[i] (List.getElem_mem h))
  constructor
  case assigned_increase => exact assigned ▸ Line.numbersOf_pairwise _ _ _
  case malformed_increase => exact malformed ▸ Line.numbersOf_pairwise _ _ _
  case blank_increase => exact blank ▸ Line.numbersOf_pairwise _ _ _
  case assigned_malformed =>
    rw [assigned, malformed]
    exact Line.numbersOf_disjoint (by decide) _ _
  case assigned_blank =>
    rw [assigned, blank]
    exact Line.numbersOf_disjoint (by decide) _ _
  case malformed_blank =>
    rw [malformed, blank]
    exact Line.numbersOf_disjoint (by decide) _ _
  case inside =>
    have bounds (kind : Line.Kind) : ∀ n ∈ Line.numbersOf kind 1 (raws.map Line.read),
        1 ≤ n ∧ n ≤ raws.length := by
      intro n hn
      obtain ⟨i, bound, -, rfl⟩ := Line.mem_numbersOf.mp hn
      rw [List.length_map] at bound
      omega
    rw [assigned, malformed, blank]
    simp only [List.forall_mem_append]
    exact ⟨⟨bounds .assignment, bounds .malformed⟩, bounds .blank⟩
  case total =>
    have byKind := Line.count_kinds ((raws.map Line.read).map Line.kind)
    rw [← Line.length_numbersOf .assignment 1, ← Line.length_numbersOf .malformed 1,
      ← Line.length_numbersOf .blank 1, ← length_comments, ← assigned, ← malformed, ← blank,
      ← comments] at byKind
    simpa using byKind
  case blank_iff =>
    intro i h
    rw [blank, mem_numbersOf_map h, (kinds i h).1]
  case comment_iff =>
    intro i h
    rw [assigned, malformed, blank, List.mem_append, List.mem_append, mem_numbersOf_map h,
      mem_numbersOf_map h, mem_numbersOf_map h, ← (kinds i h).2.1]
    cases (Line.read raws[i]).kind <;> simp
  case assigned_iff =>
    intro i h
    rw [assigned, mem_numbersOf_map h, (kinds i h).2.2.1]
  case malformed_iff =>
    intro i h
    rw [malformed, mem_numbersOf_map h, (kinds i h).2.2.2]
  case comments_eq => rw [comments, filterMap_comment?_read]

/-- The lines of a text are one more than its line feeds, and the file that is read accounts for them. -/
theorem parse_accounts (content : String) :
    ∃ lines, (∀ pieces, HasLines content.toList pieces ↔ pieces = lines) ∧
      lines.length = content.toList.count '\n' + 1 ∧ (parse content).Accounts lines := by
  have has := hasLines_splitLines content.toList
  exact ⟨splitLines content.toList, fun pieces => hasLines_iff, has.length_eq,
    accounts_ofLines has.not_mem⟩

end EnvFile

end EnvAudit
