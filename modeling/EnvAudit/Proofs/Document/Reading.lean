import EnvAudit.Document.Decode
import Mathlib.Data.List.Forall2

namespace EnvAudit

namespace Checked
variable {α β : Type}

def Aborts (reading : Checked α) : Prop := ∃ halt, reading = .aborted halt

@[simp] theorem not_aborts_ok (a : α) : ¬ (ok a).Aborts := nofun

@[simp] theorem not_aborts_refused (causes : List Cause) : ¬ (refused (α := α) causes).Aborts := nofun

@[simp] theorem not_aborts_misfit (kind : Misfit) : ¬ (misfit (α := α) kind).Aborts := nofun

@[simp] theorem aborts_aborted (halt : Halt) : (aborted (α := α) halt).Aborts := ⟨halt, rfl⟩

theorem map_eq_ok {f : α → β} {x : Checked α} {b : β} : f <$> x = ok b ↔ ∃ a, x = ok a ∧ f a = b := by
  constructor
  · intro h
    cases x with
    | ok a => exact ⟨a, rfl, ok.inj h⟩
    | refused causes => cases h
    | aborted halt => cases h
  · rintro ⟨a, rfl, rfl⟩
    rfl

theorem seq_eq_ok {f : Checked (α → β)} {x : Checked α} {b : β} :
    f <*> x = ok b ↔ ∃ g a, f = ok g ∧ x = ok a ∧ g a = b := by
  constructor
  · intro h
    cases f <;> cases x <;> cases h
    exact ⟨_, _, rfl, rfl, rfl⟩
  · rintro ⟨g, a, rfl, rfl, rfl⟩
    rfl

theorem map_ok {f : α → β} {x : Checked α} {a : α} (same : x = .ok a) : f <$> x = .ok (f a) :=
  map_eq_ok.mpr ⟨a, same, rfl⟩

theorem seq_ok {f : Checked (α → β)} {g : α → β} {x : Checked α} {a : α} (first : f = .ok g)
    (second : x = .ok a) : f <*> x = .ok (g a) :=
  seq_eq_ok.mpr ⟨g, a, first, second, rfl⟩

theorem andThen_eq_ok {x : Checked α} {check : α → Checked β} {b : β} :
    x.andThen check = ok b ↔ ∃ a, x = ok a ∧ check a = ok b := by
  cases x <;> simp [andThen]

theorem within_eq_ok {step : Step} {x : Checked α} {a : α} : x.within step = ok a ↔ x = ok a := by
  cases x <;> simp [within]

theorem aborts_map {f : α → β} {x : Checked α} : (f <$> x).Aborts ↔ x.Aborts := by
  show (x.map f).Aborts ↔ x.Aborts
  cases x <;> simp [map]

theorem aborts_seq {f : Checked (α → β)} {x : Checked α} : (f <*> x).Aborts ↔ f.Aborts ∨ x.Aborts := by
  change ((f.both x).map _).Aborts ↔ _
  cases f <;> cases x <;> simp [both, map]

theorem aborts_andThen {x : Checked α} {check : α → Checked β} :
    (x.andThen check).Aborts ↔ x.Aborts ∨ ∃ a, x = ok a ∧ (check a).Aborts := by
  cases x <;> simp [andThen]

theorem aborts_within {step : Step} {x : Checked α} : (x.within step).Aborts ↔ x.Aborts := by
  cases x <;> simp [within]

end Checked

/-- A text that repeats too often, or is nested too deeply, to be a pattern. -/
def Pattern.IsExcessive [Host] (text : String) : Prop :=
  compile text = .error .countTooLarge ∨ compile text = .error .tooDeep

namespace Document
open Checked
variable {α : Type}

/-! ## Scalars -/

theorem not_aborts_asText (d : Document) : ¬ d.asText.Aborts := by
  unfold asText
  split
  · simp
  · split <;> simp
  · simp

theorem not_aborts_asName (d : Document) : ¬ d.asName.Aborts := by
  unfold asName
  rw [aborts_andThen]
  rintro (text | ⟨s, -, empty⟩)
  · exact not_aborts_asText d text
  · split at empty <;> simp at empty

theorem asName_text {s : String} (nonempty : s ≠ "") : asName (.text s) = .ok s := by
  have filled : s.isEmpty = false := by simpa using nonempty
  simp [asName, asText, andThen, filled]

theorem asName_eq_ok {d : Document} {s : String} (read : d.asName = .ok s) : s ≠ "" := by
  obtain ⟨text, -, filled⟩ := andThen_eq_ok.mp read
  rintro rfl
  split at filled
  next => cases filled
  next nonempty =>
    cases filled
    exact nonempty rfl

theorem not_aborts_flagOfWord (s : String) : ¬ (flagOfWord s).Aborts := by
  dsimp only [flagOfWord]
  split
  · simp
  · split <;> simp

theorem not_aborts_flagOfWhole (n : Int) : ¬ (flagOfWhole n).Aborts := by
  unfold flagOfWhole
  repeat' split
  all_goals simp

theorem not_aborts_asFlag (d : Document) : ¬ d.asFlag.Aborts := by
  unfold asFlag
  split
  · simp
  · exact not_aborts_flagOfWhole _
  · split
    · exact not_aborts_flagOfWhole _
    · simp
  · exact not_aborts_flagOfWord _
  · split
    · exact not_aborts_flagOfWord _
    · simp
  · simp

theorem not_aborts_asOneOf (unknown : Misfit) (ofWord? : String → Option α) (d : Document) :
    ¬ (asOneOf unknown ofWord? d).Aborts := by
  unfold asOneOf
  split
  · split <;> simp
  · simp

theorem asOneOf_eq_ok {unknown : Misfit} {ofWord? : String → Option α} {d : Document} {a : α}
    (given : asOneOf unknown ofWord? d = .ok a) : ∃ word, ofWord? word = some a := by
  unfold asOneOf at given
  split at given
  next word =>
    split at given
    next found => exact ⟨word, found.trans (congrArg some (ok.inj given))⟩
    next => cases given
  next => cases given

theorem aborts_asPattern [Host] {d : Document} :
    d.asPattern.Aborts ↔ ∃ s, d = text s ∧ Pattern.IsExcessive s := by
  unfold asPattern
  split
  · split <;> rename_i found <;> simp [Pattern.IsExcessive, found]
  · simp
  · simp_all

theorem aborts_asOptional {read : Document → Checked α} {d : Document} (null : ¬ (read .null).Aborts) :
    (asOptional read d).Aborts ↔ (read d).Aborts := by
  cases d <;> simp [asOptional, aborts_map, null]

theorem asOptional_eq_ok {read : Document → Checked α} {d : Document} {a : Option α}
    (given : asOptional read d = .ok a) : a = none ∨ ∃ b, a = some b ∧ read d = .ok b := by
  unfold asOptional at given
  split at given
  · exact .inl (ok.inj given).symm
  · obtain ⟨b, found, rfl⟩ := map_eq_ok.mp given
    exact .inr ⟨b, rfl, found⟩

/-! ## Containers -/

theorem aborts_readItems {read : Document → Checked α} {items : List Document} {position : Int} :
    (readItems read position items).Aborts ↔ ∃ item ∈ items, (read item).Aborts := by
  induction items generalizing position with
  | nil => simp [readItems]
  | cons item items ih => simp [readItems, aborts_seq, aborts_map, aborts_within, ih]

theorem readItems_eq_ok {read : Document → Checked α} {items : List Document} {position : Int}
    {values : List α} : readItems read position items = ok values ↔
      List.Forall₂ (fun item value => read item = ok value) items values := by
  induction items generalizing position values with
  | nil => simp [readItems, eq_comm]
  | cons item items ih =>
      simp only [readItems, seq_eq_ok, map_eq_ok, within_eq_ok, ih, List.forall₂_cons_left_iff]
      constructor
      · rintro ⟨_, rest, ⟨value, first, rfl⟩, others, rfl⟩
        exact ⟨value, rest, first, others, rfl⟩
      · rintro ⟨value, rest, first, others, rfl⟩
        exact ⟨_, rest, ⟨value, first, rfl⟩, others, rfl⟩

theorem aborts_asList {read : Document → Checked α} {d : Document} :
    (asList read d).Aborts ↔ ∃ items, d.items? = some items ∧ ∃ item ∈ items, (read item).Aborts := by
  unfold asList
  split <;> rename_i found <;> simp [found, aborts_readItems]

theorem exists_of_mem_asList {read : Document → Checked α} {d : Document} {values : List α}
    (given : asList read d = .ok values) {a : α} (member : a ∈ values) : ∃ item, read item = .ok a := by
  unfold asList at given
  split at given
  next items _ =>
    obtain ⟨position, bound, rfl⟩ := List.getElem_of_mem member
    have related := readItems_eq_ok.mp given
    exact ⟨items.get ⟨position, related.length_eq ▸ bound⟩, related.get _ bound⟩
  next => cases given

theorem aborts_readEntries [Host] {read : Document → Checked α} {entries : List (Document × Document)} :
    (readEntries read entries).Aborts ↔ ∃ entry ∈ entries, (read entry.2).Aborts := by
  induction entries with
  | nil => simp [readEntries]
  | cons entry entries ih =>
      simp [readEntries, aborts_seq, aborts_map, aborts_within, not_aborts_asText, ih]

theorem readEntries_eq_ok [Host] {read : Document → Checked α} {entries : List (Document × Document)}
    {values : List (String × α)} : readEntries read entries = ok values ↔
      List.Forall₂ (fun entry value => entry.1.asText = ok value.1 ∧ read entry.2 = ok value.2)
        entries values := by
  induction entries generalizing values with
  | nil => simp [readEntries, eq_comm]
  | cons entry entries ih =>
      simp only [readEntries, seq_eq_ok, map_eq_ok, within_eq_ok, ih, List.forall₂_cons_left_iff]
      constructor
      · rintro ⟨_, rest, ⟨_, value, ⟨key, name, rfl⟩, first, rfl⟩, others, rfl⟩
        exact ⟨(key, value), rest, ⟨name, first⟩, others, rfl⟩
      · rintro ⟨⟨key, value⟩, rest, ⟨name, first⟩, others, rfl⟩
        exact ⟨_, rest, ⟨_, value, ⟨key, name, rfl⟩, first, rfl⟩, others, rfl⟩

theorem aborts_asMap [Host] {read : Document → Checked α} {d : Document} :
    (asMap read d).Aborts ↔ ∃ entries, d = map entries ∧ ∃ entry ∈ entries, (read entry.2).Aborts := by
  unfold asMap
  split <;> simp_all [aborts_readEntries]

/-! ## Records -/

def FieldHolds (field : Field) (stated : Document → Prop) (d : Document) : Prop :=
  ∃ entries name value, d = map entries ∧ field? entries field = some (name, value) ∧ stated value

theorem aborts_requiredField {read : Document → Checked α} {field : Field}
    {entries : List (Document × Document)} :
    (requiredField read field entries).Aborts ↔ FieldHolds field (fun v => (read v).Aborts) (.map entries) := by
  unfold requiredField
  split <;> rename_i found <;> simp [FieldHolds, found, aborts_within]

theorem aborts_optionalField {read : Document → Checked α} {field : Field} {absent : α}
    {entries : List (Document × Document)} :
    (optionalField read field absent entries).Aborts ↔
      FieldHolds field (fun v => (read v).Aborts) (.map entries) := by
  unfold optionalField
  split <;> rename_i found <;> simp [FieldHolds, found, aborts_within]

theorem requiredField_eq_ok {read : Document → Checked α} {field : Field}
    {entries : List (Document × Document)} {a : α} (given : requiredField read field entries = .ok a) :
    ∃ v, read v = .ok a := by
  unfold requiredField at given
  split at given
  next name v _ => exact ⟨v, within_eq_ok.mp given⟩
  next => cases given

theorem optionalField_eq_ok {read : Document → Checked α} {field : Field} {absent a : α}
    {entries : List (Document × Document)} (given : optionalField read field absent entries = .ok a) :
    a = absent ∨ ∃ name v, field? entries field = some (name, v) ∧ read v = .ok a := by
  unfold optionalField at given
  split at given
  next name v found => exact .inr ⟨name, v, found, within_eq_ok.mp given⟩
  next => exact .inl (ok.inj given).symm

theorem exists_of_mem_optionalList {read : Document → Checked α} {field : Field}
    {entries : List (Document × Document)} {values : List α}
    (given : optionalField (asList read) field [] entries = .ok values) {a : α} (member : a ∈ values) :
    ∃ item, read item = .ok a := by
  rcases optionalField_eq_ok given with rfl | ⟨_, v, -, listed⟩
  · cases member
  · exact exists_of_mem_asList listed member

theorem aborts_asRecord {read : List (Document × Document) → Checked α} {d : Document} :
    (asRecord read d).Aborts ↔ ∃ entries, d = map entries ∧ (read entries).Aborts := by
  unfold asRecord
  split <;> simp_all

end Document

end EnvAudit
