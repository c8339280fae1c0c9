import EnvAudit.Catalogue
import EnvAudit.Proofs.Document.Keys
import EnvAudit.Proofs.Schema.Loading
import EnvAudit.Proofs.Schema.Parts
import EnvAudit.Proofs.Workspace.Location
import EnvAudit.Proofs.Workspace.Saving

namespace EnvAudit
open Checked Document Json

section
variable [Host]

namespace Schema

def withoutPredicates (s : Schema) : Schema :=
  { s with rules := s.rules.map fun rule => { rule with predicate := none } }

/-- What holds of any schema that was read from a document. -/
structure IsStorable (s : Schema) : Prop where
  distinct : (s.specs.map (·.1)).Nodup
  named : ∀ spec ∈ s.specs, VariableName.check spec.1 = .ok ()
  rules : ∀ rule ∈ s.rules, rule.name ≠ "" ∧ rule.description ≠ ""
  securityRules : ∀ rule ∈ s.securityRules, rule.name ≠ "" ∧ rule.description ≠ ""

variable {s : Schema} {source : String}

theorem distinct_toMembers (s : Schema) : (s.toMembers.map (·.1)).Nodup := by simp [toMembers]

theorem decode_stored (storable : s.IsStorable) :
    decode (Json.obj s.toMembers).stored = .ok s.withoutPredicates := by
  have distinct := s.distinct_toMembers
  have specs : Holds s.toMembers (.plain "variables")
      (.obj (s.specs.map fun entry => (entry.1, entry.2.toJson))) := ⟨distinct, rfl, .inl rfl⟩
  have rules : Holds s.toMembers (.plain "rules") (.arr (s.rules.map fun rule => .obj rule.toMembers)) :=
    ⟨distinct, rfl, .inl rfl⟩
  have securityRules : Holds s.toMembers ⟨"security_rules", "securityRules"⟩
      (.arr (s.securityRules.map SecurityRule.toJson)) := ⟨distinct, rfl, .inr rfl⟩
  have ignorePatterns : Holds s.toMembers ⟨"ignore_patterns", "ignorePatterns"⟩
      (.strings (s.ignorePatterns.map (·.text))) := ⟨distinct, rfl, .inr rfl⟩
  have readVariables : asMap VariableSpec.decode
      (Json.obj (s.specs.map fun entry => (entry.1, entry.2.toJson))).stored = .ok s.specs := by
    have read :
        asMap VariableSpec.decode (Json.obj (s.specs.map fun entry => (entry.1, entry.2.toJson))).stored =
          .ok (s.specs.map fun entry => (entry.1, id entry.2)) :=
      asMap_stored (fun entry _ => rfl) fun entry _ => VariableSpec.decode_stored entry.2
    simpa using read
  have readRules : asList Rule.decode (Json.arr (s.rules.map fun rule => .obj rule.toMembers)).stored =
      .ok (s.rules.map fun rule => { rule with predicate := none }) :=
    asList_stored fun rule member => Rule.decode_stored (storable.rules rule member)
  have readSecurityRules :
      asList SecurityRule.decode (Json.arr (s.securityRules.map SecurityRule.toJson)).stored =
        .ok (s.securityRules.map id) :=
    asList_stored fun rule member => SecurityRule.decode_stored (storable.securityRules rule member)
  rw [List.map_id] at readSecurityRules
  have readPatterns : decodeIgnorePatterns (Json.strings (s.ignorePatterns.map (·.text))).stored =
      .ok s.ignorePatterns := by
    rw [decodeIgnorePatterns, asTexts_stored, andThen, Pattern.checkTexts_texts]
  exact seq_ok (seq_ok (seq_ok
    (map_ok (optionalField_stored specs rfl _ readVariables []))
    (optionalField_stored rules rfl _ readRules []))
    (optionalField_stored securityRules rfl _ readSecurityRules []))
    (optionalField_stored ignorePatterns rfl _ readPatterns [])

theorem variablesOf_stored (s : Schema) :
    variablesOf (storedEntries s.toMembers) =
      .map (s.specs.map fun entry => (.text entry.1, entry.2.toJson.stored)) := by
  have found : valueOf? (storedEntries s.toMembers) "variables" =
      some (Json.obj (s.specs.map fun entry => (entry.1, entry.2.toJson))).stored := by
    rw [valueOf?_storedEntries s.distinct_toMembers]
    rfl
  have notNull : ∀ entry ∈ s.specs.map fun entry => (entry.1, entry.2.toJson), entry.2.isNull = false := by
    rw [List.forall_mem_map]
    exact fun _ _ => rfl
  rw [variablesOf, found, Option.getD_some, stored_obj, storedEntries_of_notNull notNull, List.map_map]
  rfl

theorem ofDocument_stored (storable : s.IsStorable) :
    ofDocument source s.toDocument.toDocument = .ok s.withoutPredicates := by
  have names : declaredNames (variablesOf (storedEntries s.toMembers)) =
      .ok (s.specs.map fun entry => .text entry.1) := by
    rw [variablesOf_stored, declaredNames, List.map_map]
    rfl
  refine ofDocument_map_eq_ok.mpr ⟨_, names, ?_, decode_stored storable⟩
  rw [List.forall_mem_map]
  exact fun entry member => ⟨entry.1, rfl, storable.named entry member⟩

theorem textual_toDocument (storable : s.IsStorable) : Textual s.toDocument := by
  refine Textual.withoutNulls (.obj s.distinct_toMembers ?_)
  simp only [toMembers, List.forall_mem_cons]
  refine ⟨.obj ?_ ?_, .arr ?_, .arr ?_, textual_strings _, by simp⟩
  · rw [List.map_map]
    exact storable.distinct
  · rw [List.forall_mem_map]
    exact fun entry _ => entry.2.textual_toJson
  · rw [List.forall_mem_map]
    exact fun rule _ => rule.textual_toMembers
  · rw [List.forall_mem_map]
    exact fun rule _ => rule.textual_toJson

end Schema

namespace Schema
variable {source : String} {s : Schema}

theorem save_of_written {w w' : Workspace} {path : String}
    (written : w.save (Location.ofString path) (writeText (Location.ofString path) s.toDocument) = .ok w') :
    save w s path = .ok (Location.ofString path, w') := by
  unfold save
  dsimp only
  rw [written]

theorem Declares.distinct {entries : List (Document × Document)} {names : List Document}
    {specs : List (String × VariableSpec)} (declares : Declares entries names specs)
    (distinct : (Document.map entries).hasDistinctKeys = true) : (specs.map (·.1)).Nodup := by
  cases declares with
  | none => exact .nil
  | @map held specs found same =>
      obtain ⟨entry, member, isMap⟩ := mem_of_valueOf? found
      have keys := ((distinctEntries_iff.mp distinct).2 entry member).2
      rw [isMap] at keys
      rw [← pairwise_text_iff, List.map_map]
      exact same ▸ (distinctEntries_iff.mp keys).1

theorem isStorable_of_ofDocument {d : Document} (distinct : d.hasDistinctKeys = true)
    (accepted : ofDocument source d = .ok s) : s.IsStorable := by
  cases d with
  | null =>
      obtain rfl : {} = s := Except.ok.inj accepted
      constructor <;> simp
  | map entries =>
      obtain ⟨names, given, named, read⟩ := ofDocument_map_eq_ok.mp accepted
      simp only [decode, asRecord, seq_eq_ok, map_eq_ok] at read
      obtain ⟨_, _, ⟨_, securityRules, ⟨_, rules, ⟨specs, readSpecs, rfl⟩, readRules, rfl⟩, readSecurityRules,
        rfl⟩, -, rfl⟩ := read
      have declares := declares_of_read given named readSpecs
      refine ⟨declares.distinct distinct, named_of_ofDocument accepted, fun rule member => ?_,
        fun rule member => ?_⟩
      · obtain ⟨item, read⟩ := exists_of_mem_optionalList readRules member
        exact Rule.named_of_decode read
      · obtain ⟨item, read⟩ := exists_of_mem_optionalList readSecurityRules member
        exact SecurityRule.named_of_decode read
  | bool | int | float | list | text | bytes | set | pair | date | timestamp => cases accepted

/-- A schema that was read from a document can be saved as JSON wherever a file can be written, and is the same when
it is loaded again, but for its predicates: both under the path that it was saved under and under the one that saving
it gave back. -/
theorem load_save {d : Document} (distinct : d.hasDistinctKeys = true) (accepted : ofDocument source d = .ok s)
    {w : Workspace} {path : String} (isJson : isJsonFile (Location.ofString path) = true)
    (writable : w.isWritable (Location.ofString path) = true) :
    ∃ file w', save w s path = .ok (file, w') ∧
      load w' file.toString = .ok s.withoutPredicates ∧ load w' path = .ok s.withoutPredicates := by
  have storable := isStorable_of_ofDocument distinct accepted
  have textual := textual_toDocument storable
  obtain ⟨w', written⟩ := (Workspace.isWritable_iff (writeText (Location.ofString path) s.toDocument)).mp writable
  refine ⟨Location.ofString path, w', save_of_written written, ?_⟩
  rw [writeText, if_pos isJson] at written
  have noReturn : '\r' ∉ (Json.write Json.savedLayout s.toDocument ++ "\n").toList :=
    textual.return_notMem_write rfl
  have readable := Workspace.readText_of_save written noReturn
  have reads := (Json.read_write textual Json.savedLayout).2
  have same := Location.ofString_toString path
  constructor
  · rw [← same] at isJson readable
    rw [load_json isJson readable reads, ofDocument_stored storable]
  · rw [load_json isJson readable reads, ofDocument_stored storable]

end Schema

end

namespace Schema
attribute [local instance] Host.shipped

theorem load_save_predicate :
    let spec : Document := .map [(.text "type", .text "number"), (.text "pattern", .text "^[0-9]+$"),
      (.text "example", .int 8080), (.text "description", .text "\x7b🔑\n\x7d")]
    let rule : Document := .map [(.text "name", .text "numeric"), (.text "description", .text "d"),
      (.text "severity", .text "warning"), (.text "predicate", .text "envguard.core.patterns:looks_like_number")]
    let d : Document := .map [(.text "variables", .map [(.text "PORT", spec)]), (.text "rules", .list [rule])]
    let w : Workspace := { root := Location.ofString "/work" }
    let path := "conf/Schema.JSON"
    ∃ s, d.hasDistinctKeys = true ∧ ofDocument "<schema>" d = .ok s ∧ isJsonFile (Location.ofString path) = true ∧
      w.isWritable (Location.ofString path) = true ∧ ∃ file w', save w s path = .ok (file, w') ∧
        load w' file.toString = .ok s.withoutPredicates ∧ load w' path = .ok s.withoutPredicates := by
  intro spec rule d w path
  have distinct : d.hasDistinctKeys = true := by decide +kernel
  have isJson : isJsonFile (Location.ofString path) = true := by decide +kernel
  have writable : w.isWritable (Location.ofString path) = true := by decide +kernel
  have reads : (ofDocument "<schema>" d).isOk = true := by decide +kernel
  clear_value d w path
  cases accepted : ofDocument "<schema>" d with
  | error failure =>
      rw [accepted] at reads
      cases reads
  | ok s => exact ⟨s, distinct, rfl, isJson, writable, load_save distinct accepted isJson writable⟩

end Schema

end EnvAudit
