import EnvAudit.EnvFile.Parser
import EnvAudit.Proofs.EnvFile.Comment
import EnvAudit.Proofs.EnvFile.Key

/-!
# What a line is read as

A line is described from left to right: a name, an equality sign, and a value that is closed by a double quote, closed
by a single quote, or cut at a hash sign. What the parser gives for a line is what is described, and nothing else.
Main statements: `RawValue.read_iff` and `Assignment.parse_iff`.
-/

namespace EnvAudit
open Text VariableName

namespace RawValue

/-! ## Closing quotes -/

/-- What may stand behind the quote that closes a value, and the comment in it. -/
inductive IsTail : List Char → Option (List Char) → Prop where
  | nothing : IsTail [] none
  | comment {blanks : List Char} (text : List Char) : (∀ c ∈ blanks, isBlank c = true) →
      IsTail (blanks ++ '#' :: text) (nonempty? (trim text))

/-- A value between double quotes, of which the second is the first one that is not skipped. -/
inductive ScansDouble : List Char → RawValue → Prop where
  | mk {body tail : List Char} {comment : Option (List Char)} : IsQuotedBody body → IsTail tail comment →
      ScansDouble ('"' :: (body ++ '"' :: tail)) ⟨unescape body, true, comment⟩

/-- A value between single quotes, of which the second is the first one that may close the value. -/
inductive ScansSingle : List Char → RawValue → Prop where
  | mk {body tail : List Char} {comment : Option (List Char)} : IsTail tail comment →
      (∀ front back, body = front ++ '\'' :: back → ∀ other, ¬ IsTail (back ++ '\'' :: tail) other) →
      ScansSingle ('\'' :: (body ++ '\'' :: tail)) ⟨body, true, comment⟩

theorem trim_closing {blanks : List Char} (blank : ∀ c ∈ blanks, isBlank c = true) (text : List Char) :
    trim (blanks ++ '#' :: text) = '#' :: trimEnd text := by
  rw [trim, trimStart_append_of_blank blank, trimStart_cons (by decide)]
  exact trimEnd_append_cons (by decide) [] text

theorem isClosing_iff {tail : List Char} :
    isClosing tail = true ↔
      tail = [] ∨ ∃ blanks text, tail = blanks ++ '#' :: text ∧ ∀ c ∈ blanks, isBlank c = true := by
  rw [isClosing, Bool.or_eq_true, List.isEmpty_iff, beq_iff_eq]
  refine or_congr_right ⟨fun head => ?_, ?_⟩
  · obtain ⟨text, shape⟩ := List.head?_eq_some_iff.mp head
    obtain ⟨blanks, split, blank⟩ := exists_trimStart tail
    exact ⟨blanks, text, shape ▸ split, blank⟩
  · rintro ⟨blanks, text, rfl, blank⟩
    rw [trimStart_append_of_blank blank, trimStart_cons (by decide)]
    rfl

theorem isTail_iff {tail : List Char} {comment : Option (List Char)} :
    IsTail tail comment ↔ isClosing tail = true ∧ comment = closingComment tail := by
  have commentOf {blanks : List Char} (blank : ∀ c ∈ blanks, isBlank c = true) (text : List Char) :
      closingComment (blanks ++ '#' :: text) = nonempty? (trim text) := by
    rw [closingComment, trim_closing blank, List.drop_one, List.tail_cons, ← trimStart_trimEnd, trimEnd_trimEnd,
      trimStart_trimEnd]
  constructor
  · rintro (_ | ⟨text, blank⟩)
    · exact ⟨rfl, rfl⟩
    · exact ⟨isClosing_iff.mpr (.inr ⟨_, text, rfl, blank⟩), (commentOf blank text).symm⟩
  · rintro ⟨closing, rfl⟩
    rcases isClosing_iff.mp closing with rfl | ⟨blanks, text, rfl, blank⟩
    · exact .nothing
    · rw [commentOf blank]
      exact .comment text blank

theorem exists_isTail {tail : List Char} : (∃ comment, IsTail tail comment) ↔ isClosing tail = true := by
  simp [isTail_iff]

theorem readDouble?_iff {s : List Char} {raw : RawValue} : readDouble? s = some raw ↔ ScansDouble s raw := by
  constructor
  · intro found
    obtain ⟨body, tail, rfl, isBody, closing, rfl⟩ := readDouble?_eq_some found
    exact .mk isBody (isTail_iff.mpr ⟨closing, rfl⟩)
  · rintro ⟨isBody, isTail⟩
    obtain ⟨closing, rfl⟩ := isTail_iff.mp isTail
    simp [readDouble?, closeDouble_append isBody, closing]

theorem closeSingle_cons (c : Char) (s : List Char) :
    closeSingle (c :: s) =
      if c = '\'' ∧ isClosing s = true then some ([], s)
      else (closeSingle s).map fun (body, tail) => (c :: body, tail) := by
  simp only [closeSingle, Bool.and_eq_true, decide_eq_true_eq]

theorem closeSingle_eq_some_iff {s body tail : List Char} :
    closeSingle s = some (body, tail) ↔
      s = body ++ '\'' :: tail ∧ isClosing tail = true ∧
        ∀ front back, body = front ++ '\'' :: back → ¬ isClosing (back ++ '\'' :: tail) = true := by
  constructor
  · intro found
    obtain ⟨rfl, closing⟩ := closeSingle_eq_some found
    refine ⟨rfl, closing, ?_⟩
    rintro front back rfl early
    induction front with
    | nil =>
        rw [List.nil_append, List.cons_append, closeSingle_cons, if_pos ⟨rfl, early⟩] at found
        simp at found
    | cons c front ih =>
        rw [List.cons_append, List.cons_append, closeSingle_cons] at found
        split at found
        · simp at found
        · obtain ⟨⟨inside, after⟩, found, same⟩ := Option.map_eq_some_iff.mp found
          simp only [Prod.mk.injEq, List.cons.injEq, true_and] at same
          obtain ⟨rfl, rfl⟩ := same
          exact ih found
  · rintro ⟨rfl, closing, first⟩
    induction body with
    | nil => rw [List.nil_append, closeSingle_cons, if_pos ⟨rfl, closing⟩]
    | cons c body ih =>
        have open' : ¬ (c = '\'' ∧ isClosing (body ++ '\'' :: tail) = true) := by
          rintro ⟨rfl, early⟩
          exact first [] body rfl early
        have later := ih fun front back shape => first (c :: front) back (by rw [shape, List.cons_append])
        rw [List.cons_append, closeSingle_cons, if_neg open', later, Option.map_some]

theorem readSingle?_iff {s : List Char} {raw : RawValue} : readSingle? s = some raw ↔ ScansSingle s raw := by
  constructor
  · intro found
    unfold readSingle? at found
    split at found
    next rest =>
      obtain ⟨⟨body, tail⟩, closed, rfl⟩ := Option.map_eq_some_iff.mp found
      obtain ⟨rfl, closing, first⟩ := closeSingle_eq_some_iff.mp closed
      exact .mk (isTail_iff.mpr ⟨closing, rfl⟩) fun front back shape other early =>
        first front back shape (isTail_iff.mp early).1
    next => cases found
  · rintro ⟨isTail, first⟩
    obtain ⟨closing, rfl⟩ := isTail_iff.mp isTail
    have closed := closeSingle_eq_some_iff.mpr ⟨rfl, closing, fun front back shape early =>
      (exists_isTail.mpr early).elim (first front back shape)⟩
    simp only [readSingle?, closed, Option.map_some]

/-! ## Values that no quote closes -/

/-- The part of a text before its first hash sign, and the comment behind it. -/
inductive Cuts : List Char → List Char → Option (List Char) → Prop where
  | whole {s : List Char} : '#' ∉ s → Cuts s s none
  | hash {front : List Char} (text : List Char) : '#' ∉ front →
      Cuts (front ++ '#' :: text) front (nonempty? (trim text))

inductive Unquotes : List Char → List Char → Bool → Prop where
  | single (body : List Char) : Unquotes ('\'' :: (body ++ ['\''])) body true
  | double (body : List Char) : Unquotes ('"' :: (body ++ ['"'])) (unescape body) true
  | bare {s : List Char} : (∀ quote ∈ ['\'', '"'], ∀ body, s ≠ quote :: (body ++ [quote])) →
      Unquotes s s false

theorem isWrapped_iff {quote : Char} {s : List Char} :
    isWrapped quote s = true ↔ ∃ body, s = quote :: (body ++ [quote]) := by
  constructor
  · intro wrapped
    simp only [isWrapped, Bool.and_eq_true, decide_eq_true_eq, beq_iff_eq] at wrapped
    obtain ⟨⟨long, first⟩, last⟩ := wrapped
    obtain ⟨rest, rfl⟩ := List.head?_eq_some_iff.mp first
    rcases List.eq_nil_or_concat rest with rfl | ⟨body, c, rfl⟩
    · simp at long
    · rw [List.concat_eq_append, ← List.cons_append, List.getLast?_concat, Option.some.injEq] at last
      exact ⟨body, by rw [List.concat_eq_append, last]⟩
  · rintro ⟨body, rfl⟩
    exact isWrapped_wrapped quote body

theorem exists_unquotes (s : List Char) : ∃ value isQuoted, Unquotes s value isQuoted := by
  cases single : isWrapped '\'' s with
  | true =>
      obtain ⟨body, rfl⟩ := isWrapped_iff.mp single
      exact ⟨_, _, .single body⟩
  | false =>
      cases double : isWrapped '"' s with
      | true =>
          obtain ⟨body, rfl⟩ := isWrapped_iff.mp double
          exact ⟨_, _, .double body⟩
      | false =>
          refine ⟨s, _, .bare fun quote listed body shape => ?_⟩
          have wrapped := isWrapped_iff.mpr ⟨body, shape⟩
          simp only [List.mem_cons, List.not_mem_nil, or_false] at listed
          rcases listed with rfl | rfl
          · rw [single] at wrapped
            cases wrapped
          · rw [double] at wrapped
            cases wrapped

theorem plain_of_unquotes {s value : List Char} {isQuoted : Bool} (unquotes : Unquotes s value isQuoted)
    (comment : Option (List Char)) : plain s comment = ⟨value, isQuoted, comment⟩ := by
  cases unquotes with
  | single => exact plain_single _ comment
  | double => exact plain_double _ comment
  | bare unwrapped =>
      have bare {quote : Char} (listed : quote ∈ ['\'', '"']) : isWrapped quote s = false := by
        rw [← Bool.not_eq_true, isWrapped_iff]
        exact fun ⟨body, shape⟩ => unwrapped quote listed body shape
      exact plain_eq_unquoted_iff.mpr ⟨rfl, bare (by simp), bare (by simp)⟩

theorem readPlain_of_cuts {s front : List Char} {comment : Option (List Char)} (cuts : Cuts s front comment) :
    readPlain s = plain (trim front) comment := by
  cases cuts with
  | whole clean => exact readPlain_of_clean clean
  | hash text clean =>
      have kept : ∀ c ∈ front, (c != '#') = true := fun c member =>
        bne_iff_ne.mpr fun same => clean (same ▸ member)
      simp [readPlain, List.takeWhile_append_of_pos kept, List.dropWhile_append_of_pos kept]

theorem exists_cuts (s : List Char) : ∃ front comment, Cuts s front comment := by
  by_cases hash : '#' ∈ s
  · obtain ⟨front, text, rfl, clean⟩ := List.eq_append_cons_of_mem hash
    exact ⟨front, _, .hash text clean⟩
  · exact ⟨s, none, .whole hash⟩

/-! ## Values -/

/-- What the text behind an equality sign is read as. -/
inductive Scans (s : List Char) : RawValue → Prop where
  | double {raw : RawValue} : ScansDouble s raw → Scans s raw
  | single {raw : RawValue} : (∀ other, ¬ ScansDouble s other) → ScansSingle s raw → Scans s raw
  | cut {front value : List Char} {isQuoted : Bool} {comment : Option (List Char)} :
      (∀ other, ¬ ScansDouble s other) → (∀ other, ¬ ScansSingle s other) →
      Cuts s front comment → Unquotes (trim front) value isQuoted → Scans s ⟨value, isQuoted, comment⟩

theorem read_iff {s : List Char} {raw : RawValue} : read s = raw ↔ Scans s raw := by
  constructor
  · rintro rfl
    cases double : readDouble? s with
    | some raw =>
        rw [read, double]
        exact .double (readDouble?_iff.mp double)
    | none =>
        have noDouble : ∀ other, ¬ ScansDouble s other := fun other scans => by
          rw [readDouble?_iff.mpr scans] at double
          cases double
        cases single : readSingle? s with
        | some raw =>
            rw [read, double, single]
            exact .single noDouble (readSingle?_iff.mp single)
        | none =>
            have noSingle : ∀ other, ¬ ScansSingle s other := fun other scans => by
              rw [readSingle?_iff.mpr scans] at single
              cases single
            obtain ⟨front, comment, cuts⟩ := exists_cuts s
            obtain ⟨value, isQuoted, unquotes⟩ := exists_unquotes (trim front)
            simp only [read, double, single, readPlain_of_cuts cuts, plain_of_unquotes unquotes]
            exact .cut noDouble noSingle cuts unquotes
  · rintro (double | ⟨noDouble, single⟩ | ⟨noDouble, noSingle, cuts, unquotes⟩)
    · rw [read, readDouble?_iff.mpr double]
    · have double : readDouble? s = none :=
        Option.eq_none_iff_forall_ne_some.mpr fun other found => noDouble other (readDouble?_iff.mp found)
      rw [read, double, readSingle?_iff.mpr single]
    · have double : readDouble? s = none :=
        Option.eq_none_iff_forall_ne_some.mpr fun other found => noDouble other (readDouble?_iff.mp found)
      have single : readSingle? s = none :=
        Option.eq_none_iff_forall_ne_some.mpr fun other found => noSingle other (readSingle?_iff.mp found)
      simp only [read, double, single, readPlain_of_cuts cuts, plain_of_unquotes unquotes]

end RawValue

/-! ## Lines -/

/-- A trimmed line that assigns a text without line feed to a key. -/
structure Assigns (line key value : List Char) : Prop where
  shape : ∃ before behind, line = key ++ (before ++ '=' :: (behind ++ value)) ∧
    (∀ c ∈ before, isBlank c = true) ∧ ∀ c ∈ behind, isBlank c = true
  name : isName key = true
  clean : '\n' ∉ value

theorem Assigns.splitAssignment? {line key value : List Char} (assigns : Assigns line key value) :
    splitAssignment? line = some (key, trimStart value) := by
  obtain ⟨⟨before, behind, rfl, blank, blank'⟩, name, clean⟩ := assigns
  have clean' : '\n' ∉ trimStart value := fun member => clean (trimStart_subset value member)
  rw [splitAssignment?_append name blank, trimStart_append_of_blank blank', if_neg clean']

theorem assigns_of_splitAssignment? {line key value : List Char}
    (split : EnvAudit.splitAssignment? line = some (key, value)) :
    Assigns line key value ∧ ∀ c ∈ value.head?, isBlank c = false := by
  obtain ⟨before, rest, rfl, name, blank, rfl, clean⟩ := splitAssignment?_eq_some split
  obtain ⟨behind, shape, blank'⟩ := exists_trimStart rest
  refine ⟨⟨⟨before, behind, by rw [← shape], blank, blank'⟩, name, clean⟩, fun c head => ?_⟩
  obtain ⟨value, first⟩ := List.head?_eq_some_iff.mp head
  exact solid_of_trimStart (first ▸ trimStart_trimStart rest)

namespace Assignment

/-- What a trimmed line is read as: all blanks behind the equality sign are skipped, and what follows is the value. -/
inductive ScansLine (line : List Char) (number : Int) : Except MalformedLine Assignment → Prop where
  | assignment {key value : List Char} {raw : RawValue} : Assigns line key value →
      (∀ c ∈ value.head?, isBlank c = false) → RawValue.Scans value raw →
      ScansLine line number (.ok (.ofRaw key raw number))
  | malformed : (∀ key value, ¬ Assigns line key value) →
      ScansLine line number (.error ⟨number, String.ofList line⟩)

theorem parse_iff {line : String} {number : Int} {result : Except MalformedLine Assignment} :
    parse line number = result ↔ ScansLine (trim line.toList) number result := by
  constructor
  · rintro rfl
    unfold parse
    dsimp only
    split
    next key value split =>
      obtain ⟨assigns, solid⟩ := assigns_of_splitAssignment? split
      exact .assignment assigns solid (RawValue.read_iff.mp rfl)
    next unsplit =>
      refine .malformed fun key value assigns => ?_
      rw [assigns.splitAssignment?] at unsplit
      cases unsplit
  · rintro (⟨assigns, solid, scans⟩ | malformed)
    · next key value raw =>
      have start : trimStart value = value := by
        cases value with
        | nil => rfl
        | cons c value => exact trimStart_cons (solid c rfl) value
      simp only [parse, assigns.splitAssignment?, start, RawValue.read_iff.mpr scans]
    · have unsplit : splitAssignment? (trim line.toList) = none :=
        Option.eq_none_iff_forall_ne_some.mpr fun (key, value) split =>
          malformed key value (assigns_of_splitAssignment? split).1
      simp only [parse, unsplit]

end Assignment

end EnvAudit
