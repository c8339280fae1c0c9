import EnvAudit.Catalogue
import EnvAudit.Proofs.Document.Reading
import EnvAudit.Proofs.Json.RoundTrip
import EnvAudit.Proofs.Schema.Loading
import EnvAudit.Proofs.Schema.Predicates

/-!
# How reading a schema fails

A document that is no schema is refused as a fault of the settings, but for some kinds of documents
(`Schema.IsStray`): what stands under `variables` cannot be gone through, or has a name that is too long or too deep
to be shown; or, where the names are fine, a pattern repeats too often or is nested too deeply, an example is nested
too deeply, or looking for a predicate raises what is no refusal. Main statement: `isReported_iff`.
-/

namespace EnvAudit
open Document (FieldHolds)

/-- An item of the list meets the second statement, and all items before it the first. -/
def Reaches {α : Type} (passed reached : α → Prop) (items : List α) : Prop :=
  ∃ before item after, items = before ++ item :: after ∧ (∀ other ∈ before, passed other) ∧ reached item

theorem not_reaches_nil {α : Type} {passed reached : α → Prop} : ¬ Reaches passed reached [] := by
  simp [Reaches]

theorem reaches_cons {α : Type} {passed reached : α → Prop} {item : α} {items : List α} :
    Reaches passed reached (item :: items) ↔ reached item ∨ passed item ∧ Reaches passed reached items := by
  constructor
  · rintro ⟨before, found, after, same, fine, here⟩
    cases before with
    | nil =>
        obtain ⟨rfl, rfl⟩ := List.cons.inj same
        exact .inl here
    | cons first before =>
        obtain ⟨rfl, rfl⟩ := List.cons.inj same
        exact .inr ⟨fine item List.mem_cons_self, before, found, after, rfl,
          fun other member => fine other (List.mem_cons_of_mem _ member), here⟩
  · rintro (here | ⟨first, before, found, after, rfl, fine, here⟩)
    · exact ⟨[], item, items, rfl, by simp, here⟩
    · exact ⟨item :: before, found, after, rfl, by simpa using ⟨first, fine⟩, here⟩

namespace Document
variable {α : Type} {field : Field} {d : Document}

theorem not_fieldHolds_false : ¬ FieldHolds field (fun _ => False) d := by simp [FieldHolds]

theorem exists_map_fieldHolds {stated : Document → Prop} :
    (∃ entries, d = .map entries ∧ FieldHolds field stated (.map entries)) ↔ FieldHolds field stated d := by
  constructor
  · rintro ⟨entries, rfl, holds⟩
    exact holds
  · rintro ⟨entries, name, value, rfl, found, holds⟩
    exact ⟨entries, rfl, entries, name, value, rfl, found, holds⟩

theorem not_aborts_asOptional {read : Document → Checked α} (never : ∀ d, ¬ (read d).Aborts) (d : Document) :
    ¬ (asOptional read d).Aborts := by
  rw [aborts_asOptional (never _)]
  exact never d

theorem not_aborts_asList {read : Document → Checked α} (never : ∀ d, ¬ (read d).Aborts) (d : Document) :
    ¬ (asList read d).Aborts := by
  rw [aborts_asList]
  rintro ⟨items, -, item, -, aborts⟩
  exact never item aborts

end Document

namespace Document

inductive NotIterable : Document → Prop where
  | flag : NotIterable (.bool true)
  | whole {n : Int} : n ≠ 0 → NotIterable (.int n)
  | number {x : Binary64} : x.toInt? ≠ some 0 → NotIterable (.float x)
  | date (value : Date) : NotIterable (.date value)
  | timestamp (value : Timestamp) : NotIterable (.timestamp value)

end Document

namespace Schema

theorem declaredNames_cases (d : Document) :
    (¬ d.NotIterable ∧ ∃ names, declaredNames d = .ok names) ∨
      (d.NotIterable ∧ ∃ message, declaredNames d = .error (.wrongKind message)) := by
  cases d with
  | bool b =>
      cases b
      · exact .inl ⟨nofun, _, rfl⟩
      · exact .inr ⟨.flag, _, rfl⟩
  | int n =>
      by_cases zero : n = 0
      · subst zero
        exact .inl ⟨fun | .whole other => other rfl, _, rfl⟩
      · refine .inr ⟨.whole zero, ?_⟩
        unfold declaredNames
        split <;> simp_all [declaredNames.notIterable]
  | float x =>
      by_cases zero : x.toInt? = some 0
      · exact .inl ⟨fun | .number other => other zero, by simp [declaredNames, zero]⟩
      · exact .inr ⟨.number zero, by simp [declaredNames, zero, declaredNames.notIterable]⟩
  | date value => exact .inr ⟨.date value, _, rfl⟩
  | timestamp value => exact .inr ⟨.timestamp value, _, rfl⟩
  | null | text | list | map | set | pair | bytes => exact .inl ⟨nofun, _, rfl⟩

theorem settings_ne_ofHidden {fault : SettingsFault} {hidden : Document.Hidden} :
    Failure.settings fault ≠ .ofHidden hidden := by
  cases hidden <;> exact nofun

end Schema

section
variable [Host]

/-! ## Patterns -/

namespace Pattern

theorem aborts_checkText {purpose text : String} : (checkText purpose text).Aborts ↔ IsExcessive text := by
  unfold checkText IsExcessive
  split <;> rename_i found <;> simp [found]
  next error _ _ => cases error <;> simp_all

theorem checkText_eq_ok {purpose text : String} {pattern : Pattern} :
    checkText purpose text = .ok pattern ↔ compile text = .ok pattern := by
  unfold checkText
  split <;> rename_i found <;> simp [found, Checked.misfit]

theorem aborts_checkTexts {purpose : String} {texts : List String} :
    (checkTexts purpose texts).Aborts ↔
      Reaches (fun text => ∃ pattern, compile text = .ok pattern) IsExcessive texts := by
  induction texts with
  | nil => simp [checkTexts, not_reaches_nil]
  | cons text texts ih =>
      have rest (pattern : Pattern) : ((checkTexts purpose texts).map (pattern :: ·)).Aborts ↔
          (checkTexts purpose texts).Aborts := Checked.aborts_map
      simp only [checkTexts, Checked.aborts_andThen, aborts_checkText, checkText_eq_ok, rest, ih,
        reaches_cons, exists_and_right]

end Pattern

/-! ## Where a schema holds patterns and predicates -/

namespace Document
variable {d : Document}

def IsExcessivePattern (d : Document) : Prop := ∃ text, d = .text text ∧ Pattern.IsExcessive text

def IsEscapingPredicate (d : Document) : Prop := ∃ name, d = .text name ∧ Predicate.Escapes name

def IsTooDeep (d : Document) : Prop := d.display = .error .tooDeep

def HoldsExcessivePattern (d : Document) : Prop :=
  ∃ texts, asList asText d = .ok texts ∧
    Reaches (fun text => ∃ pattern, Pattern.compile text = .ok pattern) Pattern.IsExcessive texts

theorem aborts_asOptional_asPattern : (asOptional asPattern d).Aborts ↔ d.IsExcessivePattern := by
  rw [aborts_asOptional] <;> simp [aborts_asPattern, IsExcessivePattern]

end Document

open Document (aborts_asRecord aborts_optionalField aborts_requiredField not_fieldHolds_false not_aborts_asFlag
  not_aborts_asText not_aborts_asName not_aborts_asOneOf not_aborts_asOptional not_aborts_asList)

/-- The specification of a variable whose pattern is excessive, or whose example is too deep to be shown. -/
def VariableSpec.IsStray (d : Document) : Prop :=
  FieldHolds (.plain "pattern") (fun v => ∃ text, v.asText = .ok text ∧ Pattern.IsExcessive text) d ∨
    FieldHolds (.plain "example") Document.IsTooDeep d

theorem VariableSpec.aborts_decodeSample {d : Document} : (decodeSample d).Aborts ↔ d.IsTooDeep := by
  unfold decodeSample
  split
  · simp [Document.IsTooDeep, Document.display, Document.spell]
  · simp [Document.IsTooDeep, Document.display]
  next b => cases b <;> simp [Document.IsTooDeep, Document.display, Document.spell]
  · split <;> rename_i found <;> simp [Document.IsTooDeep, found]

theorem VariableSpec.aborts_decode {d : Document} : (decode d).Aborts ↔ IsStray d := by
  have pattern (v : Document) :
      (Document.asOptional (fun d => d.asText.andThen (Pattern.checkText "regex")) v).Aborts ↔
        ∃ text, v.asText = .ok text ∧ Pattern.IsExcessive text := by
    rw [Document.aborts_asOptional]
    · simp [Checked.aborts_andThen, not_aborts_asText, Pattern.aborts_checkText]
    · simp [Checked.andThen, Document.asText, Checked.misfit]
  simp only [decode, aborts_asRecord, Checked.aborts_seq, Checked.aborts_map, aborts_optionalField,
    not_aborts_asFlag, not_aborts_asOptional not_aborts_asText, not_aborts_asList not_aborts_asText,
    not_aborts_asOptional (not_aborts_asOneOf _ _), aborts_decodeSample, not_fieldHolds_false, false_or, or_false,
    pattern, and_or_left, exists_or, Document.exists_map_fieldHolds]
  rfl

/-- A rule whose pattern is excessive, or whose predicate raises what is no refusal when it is looked for. -/
def Rule.IsStray (d : Document) : Prop :=
  FieldHolds (.plain "pattern") Document.IsExcessivePattern d ∨
    FieldHolds (.plain "predicate") Document.IsEscapingPredicate d

theorem Rule.aborts_decode {d : Document} : (decode d).Aborts ↔ IsStray d := by
  have predicate (v : Document) : (Document.asOptional Predicate.decode v).Aborts ↔ v.IsEscapingPredicate := by
    rw [Document.aborts_asOptional] <;> simp [Predicate.aborts_decode, Document.IsEscapingPredicate]
  simp only [decode, aborts_asRecord, Checked.aborts_seq, Checked.aborts_map, aborts_optionalField,
    aborts_requiredField, not_aborts_asOptional not_aborts_asFlag, not_aborts_asName, not_aborts_asOneOf,
    not_fieldHolds_false, false_or, or_false, predicate, Document.aborts_asOptional_asPattern,
    and_or_left, exists_or, Document.exists_map_fieldHolds]
  rfl

def SecurityRule.IsStray : Document → Prop := FieldHolds (.plain "pattern") Document.IsExcessivePattern

theorem SecurityRule.aborts_decode {d : Document} : (decode d).Aborts ↔ IsStray d := by
  have pattern (v : Document) : v.asPattern.Aborts ↔ v.IsExcessivePattern := Document.aborts_asPattern
  simp only [decode, aborts_asRecord, Checked.aborts_seq, Checked.aborts_map, aborts_optionalField,
    aborts_requiredField, not_aborts_asOptional not_aborts_asText, not_aborts_asName, not_aborts_asOneOf,
    not_fieldHolds_false, false_or, or_false, pattern, Document.exists_map_fieldHolds]
  rfl

namespace Schema

def Halts (d : Document) : Prop :=
  FieldHolds (.plain "variables")
      (fun v => ∃ entries, v = .map entries ∧ ∃ entry ∈ entries, VariableSpec.IsStray entry.2) d ∨
    FieldHolds (.plain "rules") (fun v => ∃ items, v.items? = some items ∧ ∃ item ∈ items, Rule.IsStray item) d ∨
    FieldHolds ⟨"security_rules", "securityRules"⟩
      (fun v => ∃ items, v.items? = some items ∧ ∃ item ∈ items, SecurityRule.IsStray item) d ∨
    FieldHolds ⟨"ignore_patterns", "ignorePatterns"⟩ Document.HoldsExcessivePattern d

theorem aborts_decode {d : Document} : (decode d).Aborts ↔ Halts d := by
  have ignored (v : Document) : (decodeIgnorePatterns v).Aborts ↔ v.HoldsExcessivePattern := by
    simp only [decodeIgnorePatterns, Checked.aborts_andThen, not_aborts_asList not_aborts_asText, false_or,
      Pattern.aborts_checkTexts, Document.HoldsExcessivePattern]
  simp only [decode, aborts_asRecord, Checked.aborts_seq, Checked.aborts_map, aborts_optionalField,
    Document.aborts_asMap, Document.aborts_asList, VariableSpec.aborts_decode, Rule.aborts_decode,
    SecurityRule.aborts_decode, ignored, and_or_left, exists_or, Document.exists_map_fieldHolds, Halts, or_assoc]

end Schema

/-! ## Names -/

namespace Schema

def HoldsHiddenName : List Document → Prop :=
  Reaches Document.IsVariableName fun item => ∃ hidden, item.display = .error hidden

theorem checkNames_eq_hidden (source : String) {items : List Document} :
    (∃ hidden, checkNames source items = .error (.ofHidden hidden)) ↔ HoldsHiddenName items := by
  induction items with
  | nil => simp [checkNames, HoldsHiddenName, not_reaches_nil]
  | cons item items ih =>
      rw [checkNames, HoldsHiddenName, reaches_cons, ← HoldsHiddenName, ← ih, Document.IsVariableName]
      split
      next hidden found => simp [found]
      next name found => split <;> simp_all [settings_ne_ofHidden]

theorem checkNames_error {source : String} {items : List Document} {failure : Failure}
    (h : checkNames source items = .error failure) :
    (∃ hidden, failure = .ofHidden hidden) ∨ ∃ fault, failure = .settings fault := by
  induction items with
  | nil => cases h
  | cons item items ih =>
      rw [checkNames] at h
      split at h
      · exact .inl ⟨_, (Except.error.inj h).symm⟩
      · split at h
        · exact ih h
        · exact .inr ⟨_, (Except.error.inj h).symm⟩

/-! ## Schemas -/

/-- A document that cannot be read, though not for a fault of the settings: the names under `variables` cannot
be gone through or shown, or the names are fine and the reading of the fields ends at once. -/
inductive IsStray : Document → Prop where
  | notIterable {entries : List (Document × Document)} :
      (variablesOf entries).NotIterable → IsStray (.map entries)
  | hiddenName {entries : List (Document × Document)} {names : List Document} :
      declaredNames (variablesOf entries) = .ok names → HoldsHiddenName names → IsStray (.map entries)
  | halts {entries : List (Document × Document)} {names : List Document} :
      declaredNames (variablesOf entries) = .ok names → (∀ item ∈ names, item.IsVariableName) →
        Halts (.map entries) → IsStray (.map entries)

def IsReported {α : Type} (run : Except Failure α) : Prop :=
  (∃ a, run = .ok a) ∨ ∃ fault, run = .error (.settings fault)

theorem isReported_toExcept {reading : Checked Schema} {refusal : List Cause → SettingsFault} :
    IsReported (reading.toExcept fun causes => .settings (refusal causes)) ↔ ¬ reading.Aborts := by
  cases reading with
  | ok schema => simp [IsReported, Checked.toExcept]
  | refused causes => simp [IsReported, Checked.toExcept]
  | aborted halt => cases halt <;> simp [IsReported, Checked.toExcept, Failure.ofHalt]

theorem isReported_ofDocument_iff (source : String) (d : Document) :
    IsReported (ofDocument source d) ↔ ¬ IsStray d := by
  cases d with
  | map entries =>
      rcases declaredNames_cases (variablesOf entries) with ⟨iterable, names, given⟩ | ⟨endless, message, failed⟩
      · rw [ofDocument_map given]
        -- The fields are read only once all names are fine, so a name decides before any of them.
        have stray : IsStray (.map entries) ↔ HoldsHiddenName names ∨
            (∀ item ∈ names, item.IsVariableName) ∧ (decode (.map entries)).Aborts := by
          rw [aborts_decode]
          constructor
          · rintro (endless | ⟨same, hidden⟩ | ⟨same, fine, halts⟩)
            · exact absurd endless iterable
            · cases given.symm.trans same
              exact .inl hidden
            · cases given.symm.trans same
              exact .inr ⟨fine, halts⟩
          · rintro (hidden | ⟨fine, halts⟩)
            · exact .hiddenName given hidden
            · exact .halts given fine halts
        have named : checkNames source names = .ok () ↔ _ := checkNames_eq_ok
        rw [stray, ← checkNames_eq_hidden source, ← named]
        cases checked : checkNames source names with
        | ok _ => simp [Except.bind, isReported_toExcept]
        | error failure =>
            rcases checkNames_error checked with ⟨hidden, rfl⟩ | ⟨fault, rfl⟩
            · simp [IsReported, Except.bind, (settings_ne_ofHidden).symm]
            · simp [IsReported, Except.bind, settings_ne_ofHidden]
      · have failed' : ofDocument source (.map entries) = .error (.wrongKind message) := by
          rw [variablesOf] at failed
          simp only [ofDocument, failed, bind, Except.bind]
        rw [failed']
        simp [IsReported, IsStray.notIterable endless]
  | null =>
      refine ⟨fun _ stray => ?_, fun _ => .inl ⟨_, rfl⟩⟩
      cases stray
  | bool | int | float | text | list | set | pair | bytes | date | timestamp =>
      refine ⟨fun _ stray => ?_, fun _ => .inr ⟨_, rfl⟩⟩
      cases stray

end Schema

end

namespace Schema
attribute [local instance] Host.shipped

end Schema

end EnvAudit
