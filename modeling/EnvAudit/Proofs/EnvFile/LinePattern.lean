import Mathlib.Control.Monad.Basic
import EnvAudit.Pattern
import EnvAudit.Proofs.EnvFile.Scanning
import EnvAudit.Proofs.Pattern.Equality
import EnvAudit.Proofs.Pattern.Repetition

/-!
# Patterns for lines

The format of a line given by three patterns: one for an assignment, one for a value in double quotes and one for a
value in single quotes. What each of them matches is worked out from the end of the pattern to its start. Main
statements: `matchStart?_doubleQuoted`, `matchStart?_singleQuoted` and `matchStart?_eq_splitAssignment?`.
-/

namespace EnvAudit
open Text Pattern RawValue
open Pattern.Cursor (Rest between)

def Pattern.Tree.matchStart? (tree : Tree) (text : List Char) : Option Cursor :=
  runSequence tree.flags tree.nodes (between [] text []) some

namespace LinePattern

def character (c : Char) : Node := .char c.toNat

def letters : List SetItem := [.range 'A'.toNat 'Z'.toNat, .range 'a'.toNat 'z'.toNat]

def blank : Node := .set false [.category .space false]

def nameStart : Node := .set false (letters ++ [.char '_'.toNat])

def nameChar : Node := .set false (letters ++ [.range '0'.toNat '9'.toNat, .char '_'.toNat])

def capture (index : Nat) (body : List Node) : Node := .group (some index) .empty .empty body

def ordinary : Node := .set true [.char '"'.toNat, .char '\\'.toNat]

def piece : Node := .branch [[ordinary], [character '\\', .any]]

def comment : Node :=
  .repetition .greedy 0 (some 1) [capture 2 [repeated .greedy blank, character '#', repeated .greedy .any]]

def quotedValue (quote : Char) (body : Node) : List Node :=
  [.place .lineStart, character quote, capture 1 [body], character quote, comment, .place .lineEnd]

def assignment : Pattern.Plain where
  text := r"^([A-Za-z_][A-Za-z0-9_]*)\s*=\s*(.*)$"
  flags := .empty
  nodes := [.place .lineStart, capture 1 [nameStart, repeated .greedy nameChar], repeated .greedy blank, character '=',
    repeated .greedy blank, capture 2 [repeated .greedy .any], .place .lineEnd]
  parse_text := by decide +kernel

def doubleQuoted : Pattern.Plain where
  text := r#"^"((?:[^"\\]|\\.)*)"(\s*#.*)?$"#
  flags := .empty
  nodes := quotedValue '"' (repeated .greedy piece)
  parse_text := by decide +kernel

def singleQuoted : Pattern.Plain where
  text := r"^'(.*?)'(\s*#.*)?$"
  flags := .empty
  nodes := quotedValue '\'' (repeated .lazy .any)
  parse_text := by decide +kernel

/-! ## Single characters -/

variable {done after : List Char} {captures : List (Nat × List Char)} {rest : Rest}

theorem run_blank (cursor : Cursor) (next : Rest) : blank.run .empty cursor next = cursor.advance isBlank next := by
  rw [blank, Node.run]
  congr 1
  funext c
  simp [setHolds, SetItem.holds, Category.holds, Flags.empty]

theorem run_any (cursor : Cursor) (next : Rest) :
    Node.any.run .empty cursor next = cursor.advance (· != '\n') next := by
  rw [Node.run]
  congr 1

theorem inRange_letters (c : Char) :
    ((65 ≤ c.toNat && c.toNat ≤ 90) || (97 ≤ c.toNat && c.toNat ≤ 122)) = c.isAlpha := by
  have shape : c.isAlpha = (decide (c.val ≥ 65 ∧ c.val ≤ 90) || (c.val ≥ 97 && c.val ≤ 122)) := rfl
  simp [shape, UInt32.le_iff_toNat_le]

theorem inRange_digits (c : Char) : (48 ≤ c.toNat && c.toNat ≤ 57) = c.isDigit := by
  have shape : c.isDigit = (c.val ≥ 48 && c.val ≤ 57) := rfl
  simp [shape, UInt32.le_iff_toNat_le]

theorem toNat_beq (c d : Char) : (c.toNat == d.toNat) = (c == d) := by
  rw [Bool.eq_iff_iff, beq_iff_eq, beq_iff_eq, Char.toNat_inj]

theorem run_nameStart (cursor : Cursor) (next : Rest) :
    nameStart.run .empty cursor next = cursor.advance isNameStart next := by
  rw [nameStart, Node.run]
  congr 1
  funext c
  have shape : isNameStart c = ((65 ≤ c.toNat && c.toNat ≤ 90) || (97 ≤ c.toNat && c.toNat ≤ 122) ||
      c.toNat == '_'.toNat) := by
    rw [inRange_letters, toNat_beq]
    rfl
  simp [setHolds, SetItem.holds, Flags.empty, letters, shape, Bool.or_assoc]

theorem run_nameChar (cursor : Cursor) (next : Rest) :
    nameChar.run .empty cursor next = cursor.advance isNameChar next := by
  rw [nameChar, Node.run]
  congr 1
  funext c
  have shape : isNameChar c = ((65 ≤ c.toNat && c.toNat ≤ 90) || (97 ≤ c.toNat && c.toNat ≤ 122) ||
      (48 ≤ c.toNat && c.toNat ≤ 57) || c.toNat == '_'.toNat) := by
    rw [inRange_letters, inRange_digits, toNat_beq]
    rfl
  simp [setHolds, SetItem.holds, Flags.empty, letters, shape, Bool.or_assoc]

theorem run_character (c : Char) (cursor : Cursor) (next : Rest) :
    (character c).run .empty cursor next = cursor.advance (· == c) next := by
  rw [character, Node.run]
  congr 1
  funext d
  simp [charHolds, Flags.empty, toNat_beq]

theorem run_ordinary (cursor : Cursor) (next : Rest) :
    ordinary.run .empty cursor next = cursor.advance (fun c => c != '"' && c != '\\') next := by
  rw [ordinary, Node.run]
  congr 1
  funext c
  have shape : (c != '"' && c != '\\') = !(c.toNat == '"'.toNat || c.toNat == '\\'.toNat) := by
    rw [toNat_beq, toNat_beq, Bool.not_or]
    rfl
  simp [setHolds, SetItem.holds, Flags.empty, shape]

theorem run_character_of_ne {c d : Char} (different : d ≠ c) (done after : List Char) :
    (character c).run .empty (between done (d :: after) captures) rest = none := by
  rw [run_character, Cursor.advance_cons, if_neg (by simpa using different)]

theorem run_character_self (c : Char) (done after : List Char) :
    (character c).run .empty (between done (c :: after) captures) rest =
      rest (between (done ++ [c]) after captures) := by
  rw [run_character, Cursor.advance_cons, if_pos (beq_self_eq_true c)]

/-! ## The end of a pattern -/

theorem run_capture (index : Nat) (body : List Node) (done after : List Char) :
    (capture index body).run .empty (between done after captures) rest =
      runSequence .empty body (between done after captures) fun inner => rest (inner.close index done.length) := by
  rw [capture, Node.run]
  rfl

def finish : Rest := fun cursor => runSequence .empty [.place .lineEnd] cursor some

theorem finish_eq_ite (done after : List Char) :
    finish (between done after captures) =
      if after = [] ∨ after = ['\n'] then some (between done after captures) else none := by
  simp only [finish, runSequence, Node.run, Cursor.isAt_lineEnd (f := .empty) rfl]

theorem finish_nil (done : List Char) : finish (between done [] captures) = some (between done [] captures) := by
  rw [finish_eq_ite, if_pos (.inl rfl)]

theorem finish_cons {c : Char} (clean : c ≠ '\n') (done after : List Char) :
    finish (between done (c :: after) captures) = none := by
  rw [finish_eq_ite, if_neg (by simp [clean])]

theorem run_anything (index : Nat) (done s : List Char) :
    (capture index [repeated .greedy .any]).run .empty (between done s captures) finish =
      finish (between (done ++ s.takeWhile (· != '\n')) (s.dropWhile (· != '\n'))
        ((index, s.takeWhile (· != '\n')) :: captures)) := by
  rw [run_capture, runSequence, run_repeated run_any]
  · simp only [runSequence, Cursor.close_between]
  · intro c clean before after _
    simp only [runSequence]
    exact finish_cons (bne_iff_ne.mp clean) before after

theorem takeWhile_clean {s : List Char} (clean : '\n' ∉ s) :
    s.takeWhile (· != '\n') = s ∧ s.dropWhile (· != '\n') = [] := by
  have kept : ∀ c ∈ s, (c != '\n') = true := fun c member =>
    bne_iff_ne.mpr fun same => clean (same ▸ member)
  exact ⟨List.takeWhile_eq_self_iff.mpr kept, List.dropWhile_eq_nil_iff.mpr kept⟩

theorem run_hash {tail : List Char} (clean : '\n' ∉ tail) (done : List Char)
    (ends : ∀ c ≠ '\n', ∀ done after, rest (between done (c :: after) captures) = none) :
    runSequence .empty [repeated .greedy blank, character '#', repeated .greedy .any]
        (between done tail captures) rest =
      if (trimStart tail).head? = some '#' then rest (between (done ++ tail) [] captures) else none := by
  simp only [runSequence]
  rw [run_repeated run_blank]
  · change (character '#').run .empty (between _ (trimStart tail) captures) _ = _
    have split : tail.takeWhile isBlank ++ trimStart tail = tail := List.takeWhile_append_dropWhile
    cases behind : trimStart tail with
    | nil => rw [run_character, Cursor.advance_nil, if_neg (by simp)]
    | cons c text =>
        by_cases hash : c = '#'
        · obtain rfl := hash
          have clean' : '\n' ∉ text := fun member =>
            clean (trimStart_subset tail (behind ▸ List.mem_cons_of_mem _ member))
          rw [behind] at split
          rw [run_character_self, run_repeated run_any, (takeWhile_clean clean').1, (takeWhile_clean clean').2,
            if_pos List.head?_cons, List.append_assoc, List.append_assoc, List.singleton_append, split]
          · exact fun c clean before after _ => ends c (bne_iff_ne.mp clean) before after
        · rw [run_character_of_ne hash, if_neg (by simpa using hash)]
  · intro c isBlank before after _
    refine run_character_of_ne ?_ before after
    rintro rfl
    exact absurd isBlank (by decide)

theorem run_comment {tail : List Char} (clean : '\n' ∉ tail) (done : List Char) :
    comment.run .empty (between done tail captures) finish =
      if isClosing tail then
        some (between (done ++ tail) [] (if tail = [] then captures else (2, tail) :: captures))
      else none := by
  rw [comment, run_optional]
  simp only [runSequence]
  rw [run_capture, run_hash clean]
  · cases tail with
    | nil => simp [finish_nil, isClosing, trimStart]
    | cons c tail =>
        rw [finish_cons (fun same => clean (same ▸ List.mem_cons_self)), Option.or_none, Cursor.close_between,
          finish_nil]
        simp [isClosing]
  · exact fun c clean before after => finish_cons clean before after

def closed (quote : Char) : Rest := fun cursor =>
  runSequence .empty [character quote, comment, .place .lineEnd] cursor some

theorem closed_nil (quote : Char) (done : List Char) : closed quote (between done [] captures) = none := by
  simp only [closed, runSequence, run_character, Cursor.advance_nil]

theorem closed_of_ne {quote c : Char} (different : c ≠ quote) (done after : List Char) :
    closed quote (between done (c :: after) captures) = none := by
  simp only [closed, runSequence, run_character_of_ne different]

theorem closed_self (quote : Char) {tail : List Char} (clean : '\n' ∉ tail) (done : List Char) :
    closed quote (between done (quote :: tail) captures) =
      if isClosing tail then
        some (between (done ++ quote :: tail) [] (if tail = [] then captures else (2, tail) :: captures))
      else none := by
  have step : closed quote (between done (quote :: tail) captures) =
      comment.run .empty (between (done ++ [quote]) tail captures) finish := by
    rw [closed, runSequence, run_character_self]
    rfl
  rw [step, run_comment clean, List.append_assoc, List.singleton_append]

/-! ## Values between quotes -/

section
variable (quote : Char) (body : Node)

theorem run_quoted (s : List Char) :
    runSequence .empty (quotedValue quote body) (between [] (quote :: s) []) some =
      body.run .empty (between [quote] s []) fun inner => closed quote (inner.close 1 1) := by
  rw [quotedValue, runSequence_cons, run_lineStart, runSequence_cons, run_character_self, runSequence_cons,
    List.nil_append, run_capture, runSequence_singleton]
  rfl

theorem run_quoted_of_ne {s : List Char} (other : s.head? ≠ some quote) :
    runSequence .empty (quotedValue quote body) (between [] s []) some = none := by
  rw [quotedValue, runSequence_cons, run_lineStart, runSequence_cons]
  cases s with
  | nil => rw [run_character, Cursor.advance_nil]
  | cons c s => exact run_character_of_ne (by simpa using other) [] s

end

inductive IsPiece : List Char → Prop where
  | ordinary {c : Char} : c ≠ '"' → c ≠ '\\' → IsPiece [c]
  | escape (c : Char) : IsPiece ['\\', c]

theorem run_piece_eq (cursor : Cursor) (next : Rest) :
    piece.run .empty cursor next =
      (cursor.advance (fun c => c != '"' && c != '\\') next).or
        (cursor.advance (· == '\\') fun behind => behind.advance (· != '\n') next) := by
  rw [piece, run_either, runSequence_singleton, run_ordinary, runSequence_cons, run_character]
  simp only [runSequence_singleton, run_any]

theorem run_piece {chunk : List Char} (isPiece : IsPiece chunk) (clean : '\n' ∉ chunk) (done after : List Char)
    (next : Rest) :
    piece.run .empty (between done (chunk ++ after) captures) next =
      next (between (done ++ chunk) after captures) := by
  rw [run_piece_eq]
  cases isPiece with
  | ordinary quote back => simp [quote, back]
  | escape c =>
      have clean' : c ≠ '\n' := by
        rintro rfl
        simp at clean
      simp [clean']

theorem run_piece_stuck {back : List Char} (stuck : back = [] ∨ back = ['\\'] ∨ back.head? = some '"')
    (done : List Char) (next : Rest) : piece.run .empty (between done back captures) next = none := by
  rw [run_piece_eq]
  rcases stuck with rfl | rfl | stuck
  · rfl
  · simp
  · obtain ⟨tail, rfl⟩ := List.head?_eq_some_iff.mp stuck
    simp

/-- A text is made of pieces up to its first quote that is not in one. -/
theorem exists_pieces (s : List Char) :
    ∃ (chunks : List (List Char)) (back : List Char),
      s = chunks.flatten ++ back ∧ (∀ chunk ∈ chunks, IsPiece chunk) ∧
      (((back = [] ∨ back = ['\\']) ∧ closeDouble s = none) ∨
        ∃ tail, back = '"' :: tail ∧ closeDouble s = some (chunks.flatten, tail)) := by
  fun_induction closeDouble s with
  | case1 => exact ⟨[], [], rfl, by simp, .inl ⟨.inl rfl, rfl⟩⟩
  | case2 rest => exact ⟨[], '"' :: rest, rfl, by simp, .inr ⟨rest, rfl, rfl⟩⟩
  | case3 => exact ⟨[], ['\\'], rfl, by simp, .inl ⟨.inr rfl, rfl⟩⟩
  | case4 c rest ih =>
      obtain ⟨chunks, back, rfl, pieces, outcome⟩ := ih
      refine ⟨['\\', c] :: chunks, back, rfl, List.forall_mem_cons.mpr ⟨.escape c, pieces⟩, ?_⟩
      rcases outcome with ⟨stuck, unclosed⟩ | ⟨tail, rfl, closed⟩
      · exact .inl ⟨stuck, by rw [unclosed]; rfl⟩
      · exact .inr ⟨tail, rfl, by rw [closed]; rfl⟩
  | case5 c rest quote lone escaped ih =>
      have ordinary : c ≠ '\\' := by
        rintro rfl
        cases rest with
        | nil => exact lone rfl rfl
        | cons d rest => exact escaped d rest rfl rfl
      obtain ⟨chunks, back, rfl, pieces, outcome⟩ := ih
      refine ⟨[c] :: chunks, back, rfl, List.forall_mem_cons.mpr ⟨.ordinary quote ordinary, pieces⟩, ?_⟩
      rcases outcome with ⟨stuck, unclosed⟩ | ⟨tail, rfl, closed⟩
      · exact .inl ⟨stuck, by rw [unclosed]; rfl⟩
      · exact .inr ⟨tail, rfl, by rw [closed]; rfl⟩

theorem closed_close (quote : Char) (body back : List Char) :
    closed quote ((between ([quote] ++ body) back []).close 1 1) =
      closed quote (between (quote :: body) back [(1, body)]) :=
  congrArg (closed quote) (Cursor.close_between [quote] 1 body)

theorem matchStart?_doubleQuoted {s : List Char} (clean : '\n' ∉ s) :
    doubleQuoted.matchStart? ('"' :: s) =
      (closeDouble s).bind fun split => closed '"' (between ('"' :: split.1) ('"' :: split.2) [(1, split.1)]) := by
  obtain ⟨chunks, back, rfl, pieces, outcome⟩ := exists_pieces s
  have clean' {chunk : List Char} (member : chunk ∈ chunks) : '\n' ∉ chunk := fun feed =>
    clean (List.mem_append_left _ (List.mem_flatten.mpr ⟨chunk, member, feed⟩))
  have stuck : back = [] ∨ back = ['\\'] ∨ back.head? = some '"' := by
    rcases outcome with ⟨rfl | rfl, -⟩ | ⟨tail, rfl, -⟩ <;> simp
  have run : doubleQuoted.matchStart? ('"' :: (chunks.flatten ++ back)) =
      closed '"' (between ('"' :: chunks.flatten) back [(1, chunks.flatten)]) := by
    change runSequence .empty (quotedValue '"' (repeated .greedy piece)) _ _ = _
    rw [run_quoted, repeated, run_greedy]
    · exact closed_close '"' chunks.flatten back
    · intro chunk member done after next
      rw [runSequence_singleton, run_piece (pieces chunk member) (clean' member)]
    · intro chunk member
      cases pieces chunk member <;> simp
    · intro done next
      rw [runSequence_singleton, run_piece_stuck stuck]
    · -- No piece starts with a quote, so nothing closes the value before all pieces are read.
      intro chunk member done after _
      cases pieces chunk member with
      | ordinary quote => exact closed_of_ne quote done after
      | escape c => exact closed_of_ne (by decide) done (c :: after)
  rw [run]
  rcases outcome with ⟨rfl | rfl, unclosed⟩ | ⟨tail, rfl, found⟩
  · rw [unclosed, closed_nil]
    rfl
  · rw [unclosed, closed_of_ne (by decide)]
    rfl
  · rw [found]
    rfl

theorem closed_none {quote c : Char} {done after : List Char} (clean : '\n' ∉ after)
    (opens : c = quote → ¬ isClosing after = true) : closed quote (between done (c :: after) captures) = none := by
  by_cases same : c = quote
  · obtain rfl := same
    rw [closed_self c clean, if_neg (opens rfl)]
  · exact closed_of_ne same done after

theorem matchStart?_singleQuoted {s : List Char} (clean : '\n' ∉ s) :
    singleQuoted.matchStart? ('\'' :: s) =
      (closeSingle s).bind fun split => closed '\'' (between ('\'' :: split.1) ('\'' :: split.2) [(1, split.1)]) := by
  have kept {t : List Char} (inside : t ⊆ s) : '\n' ∉ t := fun feed => clean (inside feed)
  have all {t : List Char} (inside : t ⊆ s) : ∀ c ∈ t, (c != '\n') = true := fun c member =>
    bne_iff_ne.mpr fun feed => kept inside (feed ▸ member)
  change runSequence .empty (quotedValue '\'' (repeated .lazy .any)) _ _ = _
  rw [run_quoted]
  cases found : closeSingle s with
  | some split =>
      obtain ⟨body, tail⟩ := split
      obtain ⟨rfl, closing, first⟩ := closeSingle_eq_some_iff.mp found
      have reached : closed '\'' (between ('\'' :: body) ('\'' :: tail) [(1, body)]) ≠ none := by
        rw [closed_self '\'' (kept (by simp)), if_pos closing]
        exact Option.some_ne_none _
      rw [run_lazy run_any (all (by simp))]
      · exact closed_close '\'' body ('\'' :: tail)
      · intro read c unread split
        refine closed_none (kept (by simp [split])) ?_
        rintro rfl
        exact first read unread split
      · refine .inr ?_
        rwa [closed_close]
  | none =>
      have never {read unread : List Char} (split : s = read ++ '\'' :: unread) : ¬ isClosing unread = true := by
        intro closing
        have some := closeSingle_isSome read closing
        rw [← split, found] at some
        cases some
      have run : (repeated .lazy .any).run .empty (between ['\''] (s ++ []) [])
          (fun inner => closed '\'' (inner.close 1 1)) = closed '\'' ((between (['\''] ++ s) [] []).close 1 1) := by
        refine run_lazy run_any (all (List.Subset.refl s)) (fun read c unread split => ?_) (.inl rfl)
        refine closed_none (kept (by simp [split])) ?_
        rintro rfl
        rw [List.append_nil]
        exact never split
      rw [List.append_nil] at run
      rw [run]
      exact closed_nil _ _

/-! ## Assignments -/

def IsLine (s : List Char) : Prop := s.dropWhile (· != '\n') = [] ∨ s.dropWhile (· != '\n') = ['\n']

theorem IsLine.of_cons {c : Char} {s : List Char} (line : IsLine (c :: s)) : IsLine s := by
  by_cases feed : c = '\n'
  · obtain rfl := feed
    obtain rfl : s = [] := by simpa [IsLine] using line
    exact .inl rfl
  · simpa [IsLine, feed] using line

def remainder : Rest := fun cursor =>
  runSequence .empty [repeated .greedy blank, capture 2 [repeated .greedy .any], .place .lineEnd] cursor some

theorem remainder_eq (done s : List Char) :
    remainder (between done s captures) =
      finish (between (done ++ s.takeWhile isBlank ++ (trimStart s).takeWhile (· != '\n'))
        ((trimStart s).dropWhile (· != '\n')) ((2, (trimStart s).takeWhile (· != '\n')) :: captures)) := by
  rw [remainder, runSequence_cons, run_repeated run_blank]
  · rw [runSequence_cons]
    exact run_anything 2 _ _
  · -- With fewer blanks skipped more is left, and that ends where the shorter text ends.
    intro c _ before after behind
    rw [runSequence_cons] at behind ⊢
    replace behind : finish _ = none := (run_anything 2 _ _).symm.trans behind
    refine (run_anything 2 _ _).trans ?_
    rw [finish_eq_ite, ite_eq_right_iff] at behind ⊢
    intro line
    exact absurd (behind (IsLine.of_cons line)) (Option.some_ne_none _)

def assigned : Rest := fun cursor =>
  runSequence .empty [repeated .greedy blank, character '=', repeated .greedy blank, capture 2 [repeated .greedy .any],
    .place .lineEnd] cursor some

theorem assigned_eq (done s : List Char) :
    assigned (between done s captures) =
      (character '=').run .empty (between (done ++ s.takeWhile isBlank) (trimStart s) captures) remainder := by
  rw [assigned, runSequence_cons, run_repeated run_blank]
  · rw [runSequence_cons]
    rfl
  · intro c isBlank before after _
    rw [runSequence_cons]
    refine run_character_of_ne ?_ before after
    rintro rfl
    exact absurd isBlank (by decide)

theorem assigned_of_isNameChar {c : Char} (name : isNameChar c = true) (done s : List Char) :
    assigned (between done (c :: s) captures) = none := by
  have solid := isBlank_of_isNameChar name
  rw [assigned_eq, trimStart_cons solid, run_character_of_ne]
  rintro rfl
  exact absurd name (by decide)

theorem matchStart?_assignment (c : Char) (s : List Char) :
    assignment.matchStart? (c :: s) =
      if isNameStart c then
        assigned (between (c :: s.takeWhile isNameChar) (s.dropWhile isNameChar) [(1, c :: s.takeWhile isNameChar)])
      else none := by
  have unfolded : assignment.matchStart? (c :: s) =
      runSequence .empty [nameStart, repeated .greedy nameChar] (between [] (c :: s) []) fun inner =>
        assigned (inner.close 1 0) := by
    rw [Tree.matchStart?]
    change runSequence .empty (_ :: _ :: _) _ _ = _
    rw [runSequence_cons, run_lineStart, runSequence_cons, run_capture]
    rfl
  rw [unfolded, runSequence_cons, run_nameStart, Cursor.advance_cons]
  split
  · rw [runSequence_singleton, run_repeated run_nameChar]
    · exact congrArg assigned (Cursor.close_between [] 1 (c :: s.takeWhile isNameChar))
    · intro c name before after _
      exact assigned_of_isNameChar name before after
  · rfl

theorem isLine_iff {s text : List Char} (trimmed : trimEnd text = text) (suffix : s <:+ text) :
    IsLine s ↔ '\n' ∉ s := by
  constructor
  · rintro (whole | last)
    · intro feed
      simpa using List.dropWhile_eq_nil_iff.mp whole '\n' feed
    · obtain ⟨front, rfl⟩ := suffix
      have split : front ++ s = front ++ s.takeWhile (· != '\n') ++ ['\n'] := by
        rw [List.append_assoc, ← last, List.takeWhile_append_dropWhile]
      rw [trimEnd_eq_rdropWhile, List.rdropWhile_eq_self_iff, split] at trimmed
      exact absurd (trimmed (by simp)) (by simp [isBlank])
  · exact fun clean => .inl (takeWhile_clean clean).2

theorem matchStart?_eq_splitAssignment? {s : List Char} (trimmed : trimEnd s = s) :
    (assignment.matchStart? s).map (fun found => ((found.capture? 1).getD [], (found.capture? 2).getD [])) =
      splitAssignment? s := by
  cases s with
  | nil => rfl
  | cons c s =>
      rw [matchStart?_assignment, splitAssignment?]
      split
      next start =>
        have key := isNameChar_of_isNameStart start
        rw [List.dropWhile_cons_of_pos key, List.takeWhile_cons_of_pos key, assigned_eq]
        split
        next rest sign =>
          have suffix : trimStart rest <:+ c :: s := by
            have behind : '=' :: rest <:+ s := sign ▸ (List.dropWhile_suffix _).trans (List.dropWhile_suffix _)
            exact (List.dropWhile_suffix _).trans
              ((List.suffix_cons _ _).trans (behind.trans (List.suffix_cons _ _)))
          rw [sign, run_character_self, remainder_eq, finish_eq_ite]
          split
          next line =>
            have clean := (isLine_iff trimmed suffix).mp line
            rw [if_neg (by simpa using clean), (takeWhile_clean clean).1]
            rfl
          next more =>
            have feed : '\n' ∈ trimStart rest :=
              Decidable.by_contra fun clean => more ((isLine_iff trimmed suffix).mpr clean)
            rw [if_pos (by simpa using feed)]
            rfl
        next other =>
          cases behind : trimStart (s.dropWhile isNameChar) with
          | nil => rw [run_character, Cursor.advance_nil, Option.map_none]
          | cons d rest =>
              have noSign : d ≠ '=' := fun sign => other rest (by rw [behind, sign])
              rw [run_character_of_ne noSign, Option.map_none]
      next => rfl

end LinePattern

end EnvAudit
