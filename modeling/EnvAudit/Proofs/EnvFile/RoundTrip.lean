import EnvAudit.EnvFile.Parser
import EnvAudit.EnvFile.Printer
import EnvAudit.Proofs.EnvFile.Key
import EnvAudit.Proofs.EnvFile.Lines
import EnvAudit.Proofs.EnvFile.Value

namespace EnvAudit.Assignment
open Text

/-- An assignment with a name for a key, whose texts stay on one line. -/
structure IsWritable (a : Assignment) : Prop where
  name : VariableName.isName a.key.toList = true
  value : '\n' ∉ a.value.toList
  comment : ∀ text ∈ a.comment, '\n' ∉ text.toList

/-- An assignment whose value reads back as it was: an unquoted one is trimmed, holds no hash sign and does not
stand between quotes; a quoted one holds no escape, and with a hash sign no quote that would close it early. -/
def IsFaithful (a : Assignment) : Prop :=
  let value := a.value.toList
  if a.isQuoted then
    (∀ letter ∈ ['n', 'r', 't', '\\', '"'], ¬ ['\\', letter] <:+: value) ∧
      ('#' ∉ value ∨ '"' ∉ value ∧ value.getLast? ≠ some '\\')
  else
    trim value = value ∧ '#' ∉ value ∧
      ∀ quote ∈ ['"', '\''],
        ¬ (2 ≤ value.length ∧ value.head? = some quote ∧ value.getLast? = some quote)

-- The few letters and quotes are tried, rather than every character.
instance (a : Assignment) : Decidable a.IsFaithful :=
  haveI (p : Char → Prop) [DecidablePred p] (letters : List Char) : Decidable (∀ c ∈ letters, p c) :=
    List.decidableBAll p letters
  inferInstanceAs (Decidable (ite _ _ _))

def content (a : Assignment) : String × String × Bool × Option String :=
  (a.key, a.value, a.isQuoted, a.comment)

def writtenValue (a : Assignment) : List Char :=
  (if a.isQuoted then '"' :: (a.value.toList ++ ['"']) else a.value.toList) ++
    match a.comment with
    | some text => if text.isEmpty then [] else ' ' :: '#' :: ' ' :: text.toList
    | none => []

theorem toList_render (a : Assignment) : a.render.toList = a.key.toList ++ '=' :: a.writtenValue := by
  unfold render writtenValue
  cases a.comment with
  | none => cases a.isQuoted <;> simp
  | some text => cases a.isQuoted <;> by_cases empty : text.isEmpty = true <;> simp [empty]

theorem IsWritable.newline_notMem_writtenValue {a : Assignment} (h : a.IsWritable) :
    '\n' ∉ a.writtenValue := by
  have value := h.value
  have comment := h.comment
  unfold writtenValue
  cases shape : a.comment with
  | none => cases a.isQuoted <;> simp [value]
  | some text =>
      have clean := comment text (by simp [shape])
      cases a.isQuoted <;> by_cases empty : text.isEmpty = true <;> simp [empty, value, clean]

theorem IsWritable.newline_notMem_render {a : Assignment} (h : a.IsWritable) :
    '\n' ∉ a.render.toList := by
  rw [toList_render, List.mem_append, List.mem_cons]
  rintro (inKey | sign | inValue)
  · exact absurd (isNameChar_of_mem h.name inKey) (by decide)
  · exact absurd sign (by decide)
  · exact h.newline_notMem_writtenValue inValue

def reread (a : Assignment) (number : Int) : Assignment :=
  .ofRaw a.key.toList (RawValue.read (trim a.writtenValue)) number

theorem IsWritable.read_render {a : Assignment} (h : a.IsWritable) :
    Line.read a.render.toList =
      .assignment a.key.toList (RawValue.read (trim a.writtenValue)) := by
  rw [toList_render, Line.read_assignment h.name h.newline_notMem_writtenValue]

theorem content_reread_iff {a : Assignment} (bare : a.comment = none) (number : Int) :
    (a.reread number).content = a.content ↔
      RawValue.read (trim a.writtenValue) = ⟨a.value.toList, a.isQuoted, none⟩ := by
  unfold reread
  generalize RawValue.read (trim a.writtenValue) = raw
  obtain ⟨value, isQuoted, comment⟩ := raw
  simp only [content, ofRaw, bare, String.ofList_toList, Prod.mk.injEq, true_and, RawValue.mk.injEq,
    Option.map_eq_none_iff]
  rw [← String.toList_inj, String.toList_ofList]

theorem isWrapped_eq_false_iff (quote : Char) (s : List Char) :
    RawValue.isWrapped quote s = false ↔
      ¬ (2 ≤ s.length ∧ s.head? = some quote ∧ s.getLast? = some quote) := by
  rw [← Bool.not_eq_true, RawValue.isWrapped]
  simp [and_assoc]

theorem read_writtenValue_iff {a : Assignment} (bare : a.comment = none) :
    RawValue.read (trim a.writtenValue) = ⟨a.value.toList, a.isQuoted, none⟩ ↔ a.IsFaithful := by
  unfold IsFaithful writtenValue
  rw [bare, List.append_nil]
  cases a.isQuoted with
  | false =>
      simp only [Bool.false_eq_true, if_false, List.forall_mem_cons, List.not_mem_nil, false_imp_iff,
        implies_true, and_true]
      rw [RawValue.read_unquoted_iff, isWrapped_eq_false_iff, isWrapped_eq_false_iff]
  | true =>
      have escapes : RawValue.unescape a.value.toList = a.value.toList ↔
          ∀ letter ∈ ['n', 'r', 't', '\\', '"'], ¬ ['\\', letter] <:+: a.value.toList := by
        rw [RawValue.unescape_eq_self_iff]
        simp [RawValue.escapes]
      simp only [if_true]
      rw [trim_wrapped rfl rfl, RawValue.read_quoted_iff, escapes]
      refine and_congr_right fun unescaped => or_congr_right ?_
      exact RawValue.isQuotedBody_iff (unescaped '"' (by simp)) (unescaped '\\' (by simp))

theorem parse_stringify {as : List Assignment} (nonempty : as ≠ []) (writable : ∀ a ∈ as, a.IsWritable) :
    EnvFile.parse (stringify as) = { assignments := (as.zipIdx 1).map fun (a, n) => a.reread n } := by
  have lines : (splitLines (stringify as).toList).map Line.read =
      as.map fun a => .assignment a.key.toList (RawValue.read (trim a.writtenValue)) := by
    rw [stringify, String.toList_intercalate, List.map_map]
    have inhabited : (as.map fun a => a.render.toList) ≠ [] := by simpa using nonempty
    have clean : ∀ line ∈ as.map fun a => a.render.toList, '\n' ∉ line := by
      intro line hline
      obtain ⟨a, ha, rfl⟩ := List.mem_map.mp hline
      exact (writable a ha).newline_notMem_render
    have joined := map_splitLines_intercalate Line.read_concat_return inhabited clean
    rw [List.map_map] at joined
    refine joined.trans (List.map_congr_left fun a ha => ?_)
    exact (writable a ha).read_render
  rw [EnvFile.parse, lines, List.zipIdx_map]
  simp only [EnvFile.ofLines, List.filterMap_map, Function.comp_def, Prod.map, id_eq,
    Line.assignment?, Line.comment?, Line.blank?, Line.malformed?, List.filterMap_none]
  rw [List.filterMap_eq_map']
  rfl

/-- Written assignments are read back from the lines of their places, each under its key, and nothing else is
found. If none has a comment, all come back as they were exactly when all are faithful. -/
theorem parse_stringify_iff (as : List Assignment) (nonempty : as ≠ [])
    (writable : ∀ a ∈ as, a.IsWritable) :
    let file := EnvFile.parse (stringify as)
    file.malformed = [] ∧ file.comments = [] ∧ file.blankLines = [] ∧
      file.assignments.length = as.length ∧
      file.assignments.map (fun b => (b.key, b.line)) =
        as.mapIdx (fun i a => (a.key, (i : Int) + 1)) ∧
      ((∀ a ∈ as, a.comment = none) →
        (file.assignments.map content = as.map content ↔ ∀ a ∈ as, a.IsFaithful)) := by
  intro file
  have read : file = { assignments := (as.zipIdx 1).map fun (a, n) => a.reread n } :=
    parse_stringify nonempty writable
  rw [read]
  refine ⟨rfl, rfl, rfl, by simp, ?_, fun bare => ?_⟩
  · rw [List.map_map]
    apply List.ext_getElem (by simp)
    intro i hi hj
    simp [reread, ofRaw, Int.add_comm]
  · have forget : ((as.zipIdx 1).map fun (a, n) => a.reread n).map content =
        as.map fun a => (a.reread 0).content := by
      conv_rhs => rw [← List.zipIdx_map_fst 1 as]
      rw [List.map_map, List.map_map]
      rfl
    rw [forget, List.map_inj_left]
    refine forall₂_congr fun a ha => ?_
    rw [content_reread_iff (bare a ha), read_writtenValue_iff (bare a ha)]

theorem parse_stringify_quotes :
    let as : List Assignment :=
      [{ key := "_GREETING", value := "say \"hi\" now", line := 7, isQuoted := true },
        { key := "COLOR2", value := "  #ff0000 ", line := 7, isQuoted := true },
        { key := "it", value := "isn't \"quoted\\", line := 7 }]
    as ≠ [] ∧ (∀ a ∈ as, a.IsWritable) ∧ (∀ a ∈ as, a.comment = none) ∧ (∀ a ∈ as, a.IsFaithful) ∧
      (EnvFile.parse (stringify as)).assignments.map content = as.map content := by
  intro as
  have nonempty : as ≠ [] := by simp [as]
  have writable : ∀ a ∈ as, a.IsWritable := by
    intro a ha
    simp only [as, List.mem_cons, List.not_mem_nil, or_false] at ha
    rcases ha with rfl | rfl | rfl <;> exact ⟨by decide, by decide, by simp⟩
  have bare : ∀ a ∈ as, a.comment = none := by simp [as]
  have faithful : ∀ a ∈ as, a.IsFaithful := by decide
  exact ⟨nonempty, writable, bare, faithful,
    ((parse_stringify_iff as nonempty writable).2.2.2.2.2 bare).mpr faithful⟩

end EnvAudit.Assignment
