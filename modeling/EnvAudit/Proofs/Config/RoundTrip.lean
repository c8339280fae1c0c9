import EnvAudit.Catalogue
import EnvAudit.Proofs.Config.Loading
import EnvAudit.Proofs.Workspace.Location
import EnvAudit.Proofs.Workspace.Saving

namespace EnvAudit.Config
open Checked Document Json

theorem readMode {mode : Mode} (known : mode ∈ Mode.all) :
    mode.toJson.isNull = false ∧ asOneOf .choiceUnknown Mode.ofWord? mode.toJson.stored = .ok mode := by
  simp only [Mode.all, List.mem_cons, List.not_mem_nil, or_false] at known
  rcases known with rfl | rfl | rfl <;> exact ⟨rfl, rfl⟩

theorem textual_toJson {mode : Mode} (known : mode ∈ Mode.all) : Textual mode.toJson := by
  simp only [Mode.all, List.mem_cons, List.not_mem_nil, or_false] at known
  rcases known with rfl | rfl | rfl <;> exact .str _

section
variable [Host]

def withoutPredicates (c : Config) : Config :=
  { c with customRules := c.customRules.map fun rule => { rule with predicate := none } }

def savedMembers (c : Config) : List (String × Json) := c.toMembers fun rule => .obj rule.toMembers

variable {c : Config} {file : Location}

theorem distinct_savedMembers (c : Config) : (c.savedMembers.map (·.1)).Nodup := by
  simp [savedMembers, toMembers]

theorem decode_stored (storable : c.IsStorable) :
    decode (Json.obj c.savedMembers).stored = .ok c.withoutPredicates := by
  have distinct := c.distinct_savedMembers
  have envFile : Holds c.savedMembers ⟨"env_file", "envFile"⟩ (.str c.envFile) := ⟨distinct, rfl, .inr rfl⟩
  have schemaFile : Holds c.savedMembers ⟨"schema_file", "schemaFile"⟩ (.orNull .str c.schemaFile) :=
    optional_eq_orNull ▸ Holds.mk distinct rfl (.inr rfl)
  have exampleFile : Holds c.savedMembers ⟨"example_file", "exampleFile"⟩ (.orNull .str c.exampleFile) :=
    optional_eq_orNull ▸ Holds.mk distinct rfl (.inr rfl)
  have mode : Holds c.savedMembers (.plain "mode") (.orNull Mode.toJson c.mode) := ⟨distinct, rfl, .inl rfl⟩
  have format : Holds c.savedMembers ⟨"output_format", "outputFormat"⟩ (.str c.format.word) :=
    ⟨distinct, rfl, .inr rfl⟩
  have strict : Holds c.savedMembers (.plain "strict") (.bool c.strict) := ⟨distinct, rfl, .inl rfl⟩
  have verbose : Holds c.savedMembers (.plain "verbose") (.bool c.verbose) := ⟨distinct, rfl, .inl rfl⟩
  have exitOnError : Holds c.savedMembers ⟨"exit_on_error", "exitOnError"⟩ (.bool c.exitOnError) :=
    ⟨distinct, rfl, .inr rfl⟩
  have ignorePatterns : Holds c.savedMembers ⟨"ignore_patterns", "ignorePatterns"⟩
      (.strings (c.ignorePatterns.map (·.text))) := ⟨distinct, rfl, .inr rfl⟩
  have customRules : Holds c.savedMembers ⟨"custom_rules", "customRules"⟩
      (.arr (c.customRules.map fun rule => .obj rule.toMembers)) := ⟨distinct, rfl, .inr rfl⟩
  have securityRules : Holds c.savedMembers ⟨"security_rules", "securityRules"⟩
      (.arr (c.securityRules.map SecurityRule.toJson)) := ⟨distinct, rfl, .inr rfl⟩
  have readText (text : String) : (str text).isNull = false ∧ asText (str text).stored = .ok text := ⟨rfl, rfl⟩
  have readFormat : asOneOf .choiceUnknown ReportFormat.ofWord? (str c.format.word).stored = .ok c.format := by
    simp [asOneOf]
  have readPatterns : Schema.decodeIgnorePatterns (Json.strings (c.ignorePatterns.map (·.text))).stored =
      .ok c.ignorePatterns := by
    rw [Schema.decodeIgnorePatterns, asTexts_stored, andThen, Pattern.checkTexts_texts]
  have readRules : asList Rule.decode (Json.arr (c.customRules.map fun rule => .obj rule.toMembers)).stored =
      .ok (c.customRules.map fun rule => { rule with predicate := none }) :=
    asList_stored fun rule member => Rule.decode_stored (storable.customRules rule member)
  have readSecurityRules :
      asList SecurityRule.decode (Json.arr (c.securityRules.map SecurityRule.toJson)).stored =
        .ok (c.securityRules.map id) :=
    asList_stored fun rule member => SecurityRule.decode_stored (storable.securityRules rule member)
  rw [List.map_id] at readSecurityRules
  exact seq_ok (seq_ok (seq_ok (seq_ok (seq_ok (seq_ok (seq_ok (seq_ok (seq_ok (seq_ok
    (map_ok (optionalField_stored envFile rfl asText rfl _))
    (optionalField_optional schemaFile _ fun a _ => readText a))
    (optionalField_optional exampleFile _ fun a _ => readText a))
    (optionalField_optional mode _ fun m given => readMode (storable.mode m given)))
    (optionalField_stored format rfl _ readFormat _))
    (optionalField_stored strict rfl asFlag rfl _))
    (optionalField_stored verbose rfl asFlag rfl _))
    (optionalField_stored exitOnError rfl asFlag rfl _))
    (optionalField_stored ignorePatterns rfl _ readPatterns _))
    (optionalField_stored customRules rfl _ readRules _))
    (optionalField_stored securityRules rfl _ readSecurityRules _)

theorem ofDocument_stored (storable : c.IsStorable) :
    ofDocument file c.toDocument.toDocument = .ok c.withoutPredicates :=
  toExcept_eq_ok.mpr (decode_stored storable)

theorem textual_toDocument (storable : c.IsStorable) : Textual c.toDocument := by
  refine Textual.withoutNulls (.obj c.distinct_savedMembers ?_)
  simp only [toMembers, List.forall_mem_cons]
  refine ⟨.str _, textual_optional _, textual_optional _, ?_, .str _, .bool _, .bool _, .bool _, textual_strings _,
    .arr ?_, .arr ?_, by simp⟩
  · cases chosen : c.mode with
    | none => exact .null
    | some mode => exact textual_toJson (storable.mode mode chosen)
  · rw [List.forall_mem_map]
    exact fun rule _ => rule.textual_toMembers
  · rw [List.forall_mem_map]
    exact fun rule _ => rule.textual_toJson

/-- A configuration that was read from a document can be saved as JSON wherever a file can be written, and is the same
when it is loaded again, but for the predicates of its rules: both under the path that it was saved under and under the
one that saving it gave back. -/
theorem load_saved {source : Location} {d : Document} (accepted : ofDocument source d = .ok c) {w : Workspace}
    {path : String} (isJson : Schema.isJsonFile (Location.ofString path) = true)
    (writable : w.isWritable (Location.ofString path) = true) :
    ∃ file w', save w c path = .ok (file, w') ∧
      load w' (some file.toString) = .ok c.withoutPredicates ∧ load w' (some path) = .ok c.withoutPredicates := by
  have storable := isStorable_of_ofDocument accepted
  have textual := textual_toDocument storable
  obtain ⟨w', written⟩ :=
    (Workspace.isWritable_iff (Schema.writeText (Location.ofString path) c.toDocument)).mp writable
  have saved : save w c path = .ok (Location.ofString path, w') := by
    unfold save
    dsimp only
    rw [written]
  refine ⟨Location.ofString path, w', saved, ?_⟩
  rw [Schema.writeText, if_pos isJson] at written
  have noReturn : '\r' ∉ (Json.write Json.savedLayout c.toDocument ++ "\n").toList :=
    textual.return_notMem_write rfl
  have readable := Workspace.readText_of_save written noReturn
  have reads := (Json.read_write textual Json.savedLayout).2
  have same := Location.ofString_toString path
  constructor
  · rw [← same] at isJson readable
    rw [load_json isJson readable reads, ofDocument_stored storable]
  · rw [load_json isJson readable reads, ofDocument_stored storable]

end

attribute [local instance] Host.shipped in
theorem load_saved_emptied :
    let rule : Document := .map [(.text "name", .text "numeric"), (.text "description", .text "\x7b🔑\n\x7d"),
      (.text "severity", .text "info"), (.text "pattern", .text "^[0-9]+$"),
      (.text "predicate", .text "envguard.core.patterns:looks_like_number"), (.text "allow_empty", .bool false)]
    let d : Document := .map [(.text "ignorePatterns", .list []), (.text "custom_rules", .list [rule]),
      (.text "output_format", .text "junit"), (.text "example_file", .null), (.text "strict", .text "yes")]
    let w : Workspace := { root := Location.ofString "/work" }
    let path := "conf/Config.JSON"
    ∃ c, ofDocument (Location.ofString "old.yaml") d = .ok c ∧ Schema.isJsonFile (Location.ofString path) = true ∧
      w.isWritable (Location.ofString path) = true ∧
      (c.mode = none ∧ c.schemaFile = none ∧ c.exampleFile = none ∧ c.ignorePatterns = []) ∧
      ∃ file w', save w c path = .ok (file, w') ∧
        load w' (some file.toString) = .ok c.withoutPredicates ∧ load w' (some path) = .ok c.withoutPredicates := by
  intro rule d w path
  have isJson : Schema.isJsonFile (Location.ofString path) = true := by decide +kernel
  have writable : w.isWritable (Location.ofString path) = true := by decide +kernel
  have emptied : (ofDocument (Location.ofString "old.yaml") d).toOption.any (fun c => c.mode.isNone &&
      c.schemaFile.isNone && c.exampleFile.isNone && c.ignorePatterns.isEmpty) = true := by decide +kernel
  clear_value d w path
  cases accepted : ofDocument (Location.ofString "old.yaml") d with
  | error failure =>
      rw [accepted] at emptied
      cases emptied
  | ok c =>
      have unset : c.mode = none ∧ c.schemaFile = none ∧ c.exampleFile = none ∧ c.ignorePatterns = [] := by
        simpa [accepted, Except.toOption, and_assoc] using emptied
      exact ⟨c, rfl, isJson, writable, unset, load_saved accepted isJson writable⟩

end EnvAudit.Config
