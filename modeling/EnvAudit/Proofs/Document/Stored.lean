import EnvAudit.Proofs.Document.Reading
import EnvAudit.Proofs.Json.RoundTrip
import EnvAudit.Schema.Document

namespace EnvAudit

namespace Json

def isNull : Json → Bool
  | null => true
  | _ => false

def stored (v : Json) : Document := v.withoutNulls.toDocument

def storedEntries (members : List (String × Json)) : List (Document × Document) :=
  membersToEntries (membersWithoutNulls members)

@[simp] theorem stored_str (s : String) : stored (str s) = .text s := rfl

@[simp] theorem stored_obj (members : List (String × Json)) :
    stored (obj members) = .map (storedEntries members) := rfl

@[simp] theorem stored_arr (items : List Json) : stored (arr items) = .list (items.map stored) := by
  rw [stored, withoutNulls, toDocument]
  congr 1
  induction items with
  | nil => rfl
  | cons item items ih => rw [itemsWithoutNulls, itemsToDocuments, ih, List.map_cons, stored]

theorem storedEntries_cons (name : String) (v : Json) (members : List (String × Json)) :
    storedEntries ((name, v) :: members) =
      if v.isNull then storedEntries members else (.text name, v.stored) :: storedEntries members := by
  cases v <;> rfl

theorem storedEntries_of_notNull {members : List (String × Json)}
    (given : ∀ entry ∈ members, entry.2.isNull = false) :
    storedEntries members = members.map fun entry => (.text entry.1, entry.2.stored) := by
  induction members with
  | nil => rfl
  | cons entry members ih =>
      obtain ⟨first, others⟩ := List.forall_mem_cons.mp given
      rw [storedEntries_cons, first, ih others]
      rfl

/-! ## Members -/

variable {members : List (String × Json)} {name : String}

theorem member?_cons (entry : String × Json) (members : List (String × Json)) (name : String) :
    member? (entry :: members) name = if entry.1 = name then some entry.2 else member? members name := by
  by_cases same : entry.1 = name <;> simp [member?, same]

theorem member?_of_notMem (absent : name ∉ members.map (·.1)) : member? members name = none := by
  induction members with
  | nil => rfl
  | cons entry members ih =>
      rw [List.map_cons, List.mem_cons, not_or] at absent
      rw [member?_cons, if_neg (Ne.symm absent.1), ih absent.2]

theorem valueOf?_cons (name other : String) (d : Document) (entries : List (Document × Document)) :
    Document.valueOf? ((.text name, d) :: entries) other =
      if name = other then some d else Document.valueOf? entries other := by
  by_cases same : name = other <;> simp [Document.valueOf?, Document.sameKey, same]

theorem valueOf?_storedEntries (distinct : (members.map (·.1)).Nodup) (name : String) :
    Document.valueOf? (storedEntries members) name =
      ((member? members name).filter fun v => !v.isNull).map stored := by
  induction members with
  | nil => rfl
  | cons entry members ih =>
      obtain ⟨other, v⟩ := entry
      obtain ⟨fresh, distinct⟩ := List.nodup_cons.mp distinct
      rw [storedEntries_cons, member?_cons]
      by_cases same : other = name
      · subst same
        cases null : v.isNull with
        | true => simp [Option.filter, null, ih distinct, member?_of_notMem fresh]
        | false => simp [Option.filter, null, valueOf?_cons]
      · cases null : v.isNull with
        | true => simp [ih distinct, same]
        | false => simp [valueOf?_cons, ih distinct, same]

theorem itemsWithoutNulls_eq_map (items : List Json) : itemsWithoutNulls items = items.map withoutNulls := by
  induction items with
  | nil => rfl
  | cons item items ih => rw [itemsWithoutNulls, ih, List.map_cons]

theorem membersWithoutNulls_eq_map (members : List (String × Json)) :
    membersWithoutNulls members =
      (members.filter fun entry => !entry.2.isNull).map fun entry => (entry.1, entry.2.withoutNulls) := by
  induction members with
  | nil => rfl
  | cons entry members ih =>
      obtain ⟨name, v⟩ := entry
      cases v <;> simp [membersWithoutNulls, isNull, ih]

theorem Textual.withoutNulls {v : Json} (h : Textual v) : Textual v.withoutNulls := by
  induction h with
  | null => exact .null
  | bool value => exact .bool value
  | str value => exact .str value
  | arr _ kept =>
      rw [Json.withoutNulls, itemsWithoutNulls_eq_map]
      exact .arr (List.forall_mem_map.mpr kept)
  | @obj members distinct _ kept =>
      rw [Json.withoutNulls, membersWithoutNulls_eq_map]
      refine .obj ?_ ?_
      · rw [List.map_map]
        exact distinct.sublist (List.filter_sublist.map _)
      · rw [List.forall_mem_map]
        exact fun entry member => kept entry (List.mem_of_mem_filter member)

theorem optional_eq_orNull : optional = orNull str := by
  funext value
  cases value <;> rfl

theorem textual_strings (texts : List String) : Textual (strings texts) :=
  .arr (List.forall_mem_map.mpr fun text _ => .str text)

theorem textual_orNull {α : Type} {write : α → Json} (textual : ∀ a, Textual (write a)) (value : Option α) :
    Textual (orNull write value) := by
  cases value with
  | none => exact .null
  | some a => exact textual a

theorem textual_optional (value : Option String) : Textual (optional value) :=
  optional_eq_orNull ▸ textual_orNull .str value

end Json

namespace Document
open Json Checked

variable {α : Type} {members : List (String × Json)} {field : Field}

/-! ## Fields -/

/-- A record to be stored: its members have distinct names, and where it holds a field under the name in
documents, it does not hold it under the other name as well. -/
structure Holds (members : List (String × Json)) (field : Field) (v : Json) : Prop where
  distinct : (members.map (·.1)).Nodup
  member : member? members field.camelName = some v
  once : field.name = field.camelName ∨ member? members field.name = none

theorem Holds.field? {v : Json} (holds : Holds members field v) :
    field? (storedEntries members) field = if v.isNull then none else some (field.camelName, v.stored) := by
  have here := valueOf?_storedEntries holds.distinct field.camelName
  have there := valueOf?_storedEntries holds.distinct field.name
  rw [holds.member] at here
  rw [Document.field?, here, there]
  cases null : v.isNull with
  | false => simp [Option.filter, null]
  | true =>
      rcases holds.once with same | absent
      · simp [Option.filter, null, same, holds.member]
      · simp [Option.filter, null, absent]

theorem requiredField_stored {v : Json} (holds : Holds members field v) (given : v.isNull = false)
    (read : Document → Checked α) {a : α} (back : read v.stored = .ok a) :
    requiredField read field (storedEntries members) = .ok a := by
  rw [requiredField, holds.field?, given, if_neg Bool.false_ne_true]
  exact within_eq_ok.mpr back

theorem optionalField_stored {v : Json} (holds : Holds members field v) (given : v.isNull = false)
    (read : Document → Checked α) {a : α} (back : read v.stored = .ok a) (absent : α) :
    optionalField read field absent (storedEntries members) = .ok a := by
  rw [optionalField, holds.field?, given, if_neg Bool.false_ne_true]
  exact within_eq_ok.mpr back

theorem optionalField_orNull {write : α → Json} {value : Option α}
    (holds : Holds members field (.orNull write value)) (read : Document → Checked (Option α))
    (back : ∀ a ∈ value, (write a).isNull = false ∧ read (write a).stored = .ok (some a)) :
    optionalField read field none (storedEntries members) = .ok value := by
  cases value with
  | none => simp only [optionalField, holds.field?, orNull, isNull, if_true]
  | some a => exact optionalField_stored holds (back a rfl).1 read (back a rfl).2 none

theorem stored_ne_null {v : Json} (given : v.isNull = false) : v.stored ≠ .null := by
  intro null
  cases v with
  | null => cases given
  | bool | int | float | str | arr | obj => simp [stored, withoutNulls, toDocument] at null

theorem optionalField_optional {write : α → Json} {value : Option α}
    (holds : Holds members field (.orNull write value)) (read : Document → Checked α)
    (back : ∀ a ∈ value, (write a).isNull = false ∧ read (write a).stored = .ok a) :
    optionalField (asOptional read) field none (storedEntries members) = .ok value := by
  refine optionalField_orNull holds _ fun a given => ⟨(back a given).1, ?_⟩
  rw [asOptional]
  · exact map_eq_ok.mpr ⟨a, (back a given).2, rfl⟩
  · exact fun null => stored_ne_null (back a given).1 null

theorem optionalField_absent (distinct : (members.map (·.1)).Nodup)
    (camel : member? members field.camelName = none) (snake : member? members field.name = none)
    (read : Document → Checked α) (absent : α) :
    optionalField read field absent (storedEntries members) = .ok absent := by
  have nothing : field? (storedEntries members) field = none := by
    rw [field?, valueOf?_storedEntries distinct, valueOf?_storedEntries distinct, camel, snake]
    rfl
  rw [optionalField, nothing]

/-! ## Containers -/

theorem asList_stored {β : Type} {items : List β} {write : β → Json} {read : Document → Checked α} {f : β → α}
    (back : ∀ item ∈ items, read (write item).stored = .ok (f item)) :
    asList read (Json.arr (items.map write)).stored = .ok (items.map f) := by
  have related : List.Forall₂ (fun d a => read d = .ok a) ((items.map write).map stored) (items.map f) := by
    rw [List.map_map, List.forall₂_map_left_iff, List.forall₂_map_right_iff, List.forall₂_same]
    exact back
  rw [stored_arr, asList, items?]
  exact readItems_eq_ok.mpr related

theorem asTexts_stored (texts : List String) : asList asText (strings texts).stored = .ok texts := by
  have read : asList asText (strings texts).stored = .ok (texts.map id) := asList_stored fun text _ => rfl
  rwa [List.map_id] at read

theorem asMap_stored [Host] {β : Type} {entries : List (String × β)} {write : β → Json} {read : Document → Checked α}
    {f : β → α} (given : ∀ entry ∈ entries, (write entry.2).isNull = false)
    (back : ∀ entry ∈ entries, read (write entry.2).stored = .ok (f entry.2)) :
    asMap read (Json.obj (entries.map fun entry => (entry.1, write entry.2))).stored =
      .ok (entries.map fun entry => (entry.1, f entry.2)) := by
  have notNull : ∀ entry ∈ entries.map fun entry => (entry.1, write entry.2), entry.2.isNull = false := by
    rw [List.forall_mem_map]
    exact given
  rw [stored_obj, storedEntries_of_notNull notNull, asMap, readEntries_eq_ok, List.map_map,
    List.forall₂_map_left_iff, List.forall₂_map_right_iff, List.forall₂_same]
  exact fun entry member => ⟨rfl, back entry member⟩

end Document

end EnvAudit
