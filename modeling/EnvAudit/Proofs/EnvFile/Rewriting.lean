import EnvAudit.Proofs.EnvFile.Comment
import EnvAudit.Proofs.EnvFile.RoundTrip

namespace EnvAudit
open Text

namespace RawValue

/-! ## Comments -/

/-- A comment as it is read: trimmed, and absent rather than empty. -/
def IsComment (comment : Option (List Char)) : Prop := ∀ text ∈ comment, text ≠ [] ∧ trim text = text

theorem isComment_nonempty? (s : List Char) : IsComment (nonempty? (trim s)) := by
  intro text found
  unfold nonempty? at found
  split at found
  · cases found
  · rename_i solid
    obtain rfl := Option.some.inj found
    exact ⟨by simpa using solid, trim_trim s⟩

theorem comment_plain (s : List Char) (comment : Option (List Char)) : (plain s comment).comment = comment := by
  unfold plain
  split
  · rfl
  · split <;> rfl

theorem exists_comment (s : List Char) : ∃ t, (read s).comment = nonempty? (trim t) ∧ t ⊆ s := by
  rcases read_cases s with double | single | bare
  · obtain ⟨body, tail, rfl, -, -, value⟩ := readDouble?_eq_some double
    refine ⟨(trim tail).drop 1, by rw [value]; rfl, fun c member => ?_⟩
    simp [trim_subset tail (List.drop_subset 1 _ member)]
  · obtain ⟨body, tail, rfl, -, value⟩ := readSingle?_eq_some single
    refine ⟨(trim tail).drop 1, by rw [value]; rfl, fun c member => ?_⟩
    simp [trim_subset tail (List.drop_subset 1 _ member)]
  · refine ⟨(s.dropWhile (· != '#')).drop 1, by rw [bare, readPlain, comment_plain], ?_⟩
    exact List.Subset.trans (List.drop_subset 1 _) (List.dropWhile_suffix _).subset

theorem isComment_read (s : List Char) : IsComment (read s).comment := by
  obtain ⟨t, comment, -⟩ := exists_comment s
  rw [comment]
  exact isComment_nonempty? t

theorem comment_read_subset {s text : List Char} (found : text ∈ (read s).comment) : text ⊆ s := by
  obtain ⟨t, comment, inside⟩ := exists_comment s
  rw [comment, nonempty?] at found
  split at found
  · cases found
  · obtain rfl := Option.some.inj found
    exact List.Subset.trans (trim_subset t) inside

theorem value_read_subset {s : List Char} (unquoted : (read s).isQuoted = false) : (read s).value ⊆ s := by
  have bare := read_unquoted unquoted
  rw [bare, readPlain] at unquoted ⊢
  obtain ⟨double, single⟩ := bare_of_plain unquoted
  rw [plain_eq_unquoted_iff.mpr ⟨rfl, double, single⟩]
  exact List.Subset.trans (trim_subset _) (List.takeWhile_prefix _).subset

/-! ## Written values -/

def commentTail : Option (List Char) → List Char
  | some text => ' ' :: '#' :: ' ' :: text
  | none => []

def written (raw : RawValue) : List Char :=
  (if raw.isQuoted then '"' :: (raw.value ++ ['"']) else raw.value) ++ commentTail raw.comment

theorem trimEnd_commentTail {text : List Char} (nonempty : text ≠ []) (trimmed : trim text = text)
    (s : List Char) : trimEnd (s ++ commentTail (some text)) = s ++ commentTail (some text) := by
  have shape : s ++ commentTail (some text) = (s ++ [' ', '#', ' ']) ++ text := by simp [commentTail]
  rw [shape, trimEnd_append (trimEnd_eq_self_of_trim trimmed) nonempty]

theorem blank_space : ∀ c ∈ [' '], isBlank c = true := List.forall_mem_singleton.mpr rfl

theorem isClosing_commentTail (comment : Option (List Char)) : isClosing (commentTail comment) = true := by
  cases comment <;> rfl

section
variable {comment : Option (List Char)} (h : IsComment comment)
include h

theorem closingComment_commentTail : closingComment (commentTail comment) = comment := by
  cases comment with
  | none => rfl
  | some text =>
      obtain ⟨nonempty, trimmed⟩ := h text rfl
      have tail : trim (commentTail (some text)) = '#' :: ' ' :: text := by
        have kept := trimEnd_commentTail nonempty trimmed []
        rw [List.nil_append] at kept
        rw [← trimStart_trimEnd, kept]
        rfl
      have front : trim (' ' :: text) = text := by
        rw [← List.singleton_append, trim, trimStart_append_of_blank blank_space, ← trim, trimmed]
      rw [closingComment, tail, List.drop_succ_cons, List.drop_zero, front]
      simp [nonempty?, nonempty]

theorem read_written_quoted {v : List Char} (quote : '"' ∉ v) (back : '\\' ∉ v) :
    read (trim (written ⟨v, true, comment⟩)) = ⟨v, true, comment⟩ := by
  have shape : written ⟨v, true, comment⟩ = '"' :: (v ++ '"' :: commentTail comment) := by simp [written]
  have trimmed : trim (written ⟨v, true, comment⟩) = written ⟨v, true, comment⟩ := by
    rw [shape, trim, trimStart_cons (by decide)]
    cases comment with
    | none => exact trimEnd_concat (by decide) ('"' :: v)
    | some text =>
        obtain ⟨nonempty, kept⟩ := h text rfl
        simpa using trimEnd_commentTail nonempty kept ('"' :: (v ++ ['"']))
  have body : IsQuotedBody v := IsQuotedBody.of_forall fun c member =>
    ⟨fun same => quote (same ▸ member), fun same => back (same ▸ member)⟩
  have unescaped : unescape v = v := by
    rw [unescape_eq_self_iff]
    intro pair _ found
    exact back (found.subset List.mem_cons_self)
  rw [trimmed, shape, read]
  simp only [readDouble?, closeDouble_append body, isClosing_commentTail, if_true, unescaped,
    closingComment_commentTail h]

end

theorem exists_written_gap {v text : List Char} (value : trim v = v) (nonempty : text ≠ [])
    (comment : trim text = text) : ∃ g, IsGap g ∧ trim (v ++ commentTail (some text)) = v ++ (g ++ text) := by
  have kept := trimEnd_commentTail nonempty comment v
  by_cases empty : v = []
  · subst empty
    refine ⟨['#', ' '], ⟨[], [' '], rfl, by simp, blank_space⟩, ?_⟩
    rw [← trimStart_trimEnd, kept]
    rfl
  · refine ⟨[' ', '#', ' '], ⟨[' '], [' '], rfl, blank_space, blank_space⟩, ?_⟩
    rw [← trimStart_trimEnd, kept, trimStart_append (trimStart_eq_self_of_trim value) empty]
    simp [commentTail]

theorem read_written_unquoted {s : List Char} (trimmed : trim s = s) (unquoted : (read s).isQuoted = false) :
    read (trim (written (read s))) = read s := by
  by_cases hash : '#' ∈ s
  · obtain ⟨v, g, c, rfl, gap, clean, value, comment⟩ := exists_gap trimmed hash
    have first := read_gap gap gap clean value unquoted
    rw [comment] at first
    rw [first]
    by_cases empty : c = []
    · -- A hash sign with nothing behind it is not written again.
      obtain ⟨double, single⟩ := bare_of_gap gap clean value unquoted
      subst empty
      simp only [written, commentTail, nonempty?, List.isEmpty_nil, if_true, Bool.false_eq_true, if_false,
        List.append_nil]
      exact read_unquoted_iff.mpr ⟨value, clean, double, single⟩
    · have some : nonempty? c = some c := by simp [nonempty?, empty]
      obtain ⟨h, gap', shape⟩ := exists_written_gap value empty comment
      rw [some]
      simp only [written, Bool.false_eq_true, if_false, shape]
      rw [read_gap gap gap' clean value unquoted, comment, some]
  · rw [read_of_clean hash trimmed] at unquoted ⊢
    obtain ⟨double, single⟩ := bare_of_plain unquoted
    rw [plain_eq_unquoted_iff.mpr ⟨rfl, double, single⟩]
    simp only [written, commentTail, Bool.false_eq_true, if_false, List.append_nil]
    exact read_unquoted_iff.mpr ⟨trimmed, hash, double, single⟩

theorem read_written {s : List Char} (trimmed : trim s = s)
    (clean : (read s).isQuoted = true → '"' ∉ (read s).value ∧ '\\' ∉ (read s).value) :
    read (trim (written (read s))) = read s := by
  cases quoted : (read s).isQuoted with
  | false => exact read_written_unquoted trimmed quoted
  | true =>
      have comment := isComment_read s
      obtain ⟨quote, back⟩ := clean quoted
      generalize read s = raw at quoted comment quote back ⊢
      obtain ⟨value, isQuoted, _⟩ := raw
      obtain rfl : isQuoted = true := quoted
      exact read_written_quoted comment quote back

end RawValue

/-! ## Lines -/

theorem Line.read_eq_assignment {raw key : List Char} {value : RawValue}
    (h : Line.read raw = .assignment key value) :
    VariableName.isName key = true ∧ ∃ s, trim s = s ∧ '\n' ∉ s ∧ value = RawValue.read s := by
  unfold Line.read at h
  split at h
  · cases h
  · cases h
  · unfold readAssignment at h
    split at h
    · rename_i key' s found
      obtain ⟨rfl, rfl⟩ := Line.assignment.inj h
      obtain ⟨blanks, rest, shape, name, -, rfl, clean⟩ := splitAssignment?_eq_some found
      refine ⟨name, _, ?_, clean, rfl⟩
      have whole := trimEnd_eq_self_of_trim (trim_trim raw)
      rw [shape, ← List.append_assoc, trimEnd_append_cons (by decide)] at whole
      have kept : trimEnd rest = rest := by simpa using whole
      rw [trim, trimStart_trimStart, ← trim, ← trimStart_trimEnd, kept]
    · cases h

namespace Assignment

theorem exists_read_of_mem_parse {content : String} {a : Assignment}
    (h : a ∈ (EnvFile.parse content).assignments) :
    ∃ key s n, VariableName.isName key = true ∧ trim s = s ∧ '\n' ∉ s ∧ a = ofRaw key (RawValue.read s) n := by
  simp only [EnvFile.parse, EnvFile.ofLines, List.mem_filterMap] at h
  obtain ⟨⟨line, n⟩, member, found⟩ := h
  obtain ⟨raw, -, rfl⟩ := List.mem_map.mp (List.fst_mem_of_mem_zipIdx member)
  change (Line.read raw).assignment? n = some a at found
  cases line : Line.read raw with
  | assignment key value =>
      obtain ⟨name, s, trimmed, clean, rfl⟩ := Line.read_eq_assignment line
      rw [line] at found
      exact ⟨key, s, n, name, trimmed, clean, (Option.some.inj found).symm⟩
  | blank => rw [line] at found; cases found
  | comment text => rw [line] at found; cases found
  | malformed text => rw [line] at found; cases found

theorem writtenValue_ofRaw (key : List Char) {raw : RawValue} (comment : RawValue.IsComment raw.comment)
    (n : Int) : (ofRaw key raw n).writtenValue = raw.written := by
  obtain ⟨value, isQuoted, comment'⟩ := raw
  cases comment' with
  | none => simp [writtenValue, ofRaw, RawValue.written, RawValue.commentTail]
  | some text =>
      have solid : text ≠ [] := (comment text rfl).1
      simp [writtenValue, ofRaw, RawValue.written, RawValue.commentTail, solid]

/-- A value between quotes holds nothing that would have to be escaped, or to stand on a line of its own. -/
def NeedsNoEscape (a : Assignment) : Prop :=
  a.isQuoted = true → ∀ c ∈ ['\n', '"', '\\'], c ∉ a.value.toList

instance (a : Assignment) : Decidable a.NeedsNoEscape :=
  haveI := List.decidableBAll (fun c => c ∉ a.value.toList) ['\n', '"', '\\']
  inferInstanceAs (Decidable (_ → _))

theorem reread_of_mem_parse {content : String} {a : Assignment} (h : a ∈ (EnvFile.parse content).assignments)
    (plain : a.NeedsNoEscape) : a.IsWritable ∧ ∀ n, a.reread n = { a with line := n } := by
  obtain ⟨key, s, m, name, trimmed, clean, rfl⟩ := exists_read_of_mem_parse h
  have quoted : (RawValue.read s).isQuoted = true →
      ∀ c ∈ ['\n', '"', '\\'], c ∉ (RawValue.read s).value := by simpa [NeedsNoEscape, ofRaw] using plain
  refine ⟨⟨?_, ?_, ?_⟩, fun n => ?_⟩
  · simpa [ofRaw] using name
  · simp only [ofRaw, String.toList_ofList]
    cases isQuoted : (RawValue.read s).isQuoted with
    | true => exact quoted isQuoted '\n' (by simp)
    | false => exact fun member => clean (RawValue.value_read_subset isQuoted member)
  · intro text found
    obtain ⟨comment, raw, rfl⟩ := Option.map_eq_some_iff.mp found
    rw [String.toList_ofList]
    exact fun member => clean (RawValue.comment_read_subset raw member)
  · have survives : RawValue.read (trim (RawValue.read s).written) = RawValue.read s :=
      RawValue.read_written trimmed fun isQuoted =>
        ⟨quoted isQuoted '"' (by simp), quoted isQuoted '\\' (by simp)⟩
    rw [reread, writtenValue_ofRaw key (RawValue.isComment_read s), survives]
    simp [ofRaw]

/-- What was read from a file is read again from what is written, if no quoted value needs an escape; only the
lines are counted anew. -/
theorem parse_stringify_parse (content : String)
    (plain : ∀ a ∈ (EnvFile.parse content).assignments, a.NeedsNoEscape) :
    (EnvFile.parse (stringify (EnvFile.parse content).assignments)).assignments =
      (EnvFile.parse content).assignments.mapIdx fun i a => { a with line := (i : Int) + 1 } := by
  generalize read : (EnvFile.parse content).assignments = as at plain ⊢
  have same : ∀ a ∈ as, a.IsWritable ∧ ∀ n, a.reread n = { a with line := n } :=
    fun a member => reread_of_mem_parse (read ▸ member) (plain a member)
  by_cases empty : as = []
  · subst empty
    rfl
  · rw [parse_stringify empty fun a member => (same a member).1]
    apply List.ext_getElem (by simp)
    intro i hi hj
    simp only [List.getElem_map, List.getElem_zipIdx, List.getElem_mapIdx]
    rw [(same _ (List.getElem_mem _)).2]
    simp [Int.add_comm]

theorem parse_stringify_parse_quotes :
    let content := "A='it  #  isn't # \"so\"\nexport=1\nB = \"x \\#y' # \\\"\nC='#1'\t#\n"
    (∀ a ∈ (EnvFile.parse content).assignments, a.NeedsNoEscape) ∧
      (EnvFile.parse (stringify (EnvFile.parse content).assignments)).assignments =
        (EnvFile.parse content).assignments.mapIdx fun i a => { a with line := (i : Int) + 1 } := by
  intro content
  have plain : ∀ a ∈ (EnvFile.parse content).assignments, a.NeedsNoEscape := by decide +kernel
  exact ⟨plain, parse_stringify_parse content plain⟩

end Assignment

end EnvAudit
