import EnvAudit.Config.Store
import EnvAudit.Proofs.Schema.Loading
import EnvAudit.Proofs.Schema.Parts

namespace EnvAudit
open Checked Document

namespace Mode

def all : List Mode := [schema, .example, both]

theorem mem_all_of_ofWord? {word : String} {mode : Mode} (read : ofWord? word = some mode) : mode ∈ all := by
  unfold ofWord? at read
  split at read
  · simp [all, ← Option.some.inj read]
  · split at read
    · simp [all, ← Option.some.inj read]
    · split at read
      · simp [all, ← Option.some.inj read]
      · cases read

end Mode

namespace Config
variable [Host] {c : Config} {file : Location}

/-- What holds of any configuration that was read from a document. -/
structure IsStorable (c : Config) : Prop where
  mode : ∀ mode ∈ c.mode, mode ∈ Mode.all
  customRules : ∀ rule ∈ c.customRules, rule.name ≠ "" ∧ rule.description ≠ ""
  securityRules : ∀ rule ∈ c.securityRules, rule.name ≠ "" ∧ rule.description ≠ ""

theorem isStorable_default : Config.default.IsStorable := by
  constructor <;> simp [Config.default]

theorem isStorable_of_decode {d : Document} (read : decode d = .ok c) : c.IsStorable := by
  cases d with
  | map entries =>
      simp only [decode, asRecord, seq_eq_ok, map_eq_ok] at read
      obtain ⟨_, securityRules, ⟨_, customRules, ⟨_, _, ⟨_, _, ⟨_, _, ⟨_, _, ⟨_, _, ⟨_, mode, ⟨_, _, ⟨_, _, ⟨_, -,
        rfl⟩, -, rfl⟩, -, rfl⟩, chosen, rfl⟩, -, rfl⟩, -, rfl⟩, -, rfl⟩, -, rfl⟩, -, rfl⟩, customs, rfl⟩, securities,
        rfl⟩ := read
      refine ⟨fun m given => ?_, fun rule member => ?_, fun rule member => ?_⟩
      · rcases optionalField_eq_ok chosen with rfl | ⟨_, v, -, read⟩
        · cases given
        · rcases asOptional_eq_ok read with rfl | ⟨_, rfl, worded⟩
          · cases given
          · cases given
            obtain ⟨word, known⟩ := asOneOf_eq_ok worded
            exact Mode.mem_all_of_ofWord? known
      · obtain ⟨item, read⟩ := exists_of_mem_optionalList customs member
        exact Rule.named_of_decode read
      · obtain ⟨item, read⟩ := exists_of_mem_optionalList securities member
        exact SecurityRule.named_of_decode read
  | null | bool | int | float | list | text | bytes | set | pair | date | timestamp => cases read

theorem mode_of_decode {d : Document} (read : decode d = .ok c) : ∀ mode ∈ c.mode, mode ∈ Mode.all :=
  (isStorable_of_decode read).mode

theorem isStorable_of_ofDocument {d : Document} (accepted : ofDocument file d = .ok c) : c.IsStorable := by
  cases d with
  | null =>
      obtain rfl : Config.default = c := Except.ok.inj accepted
      exact isStorable_default
  | map entries => exact isStorable_of_decode (toExcept_eq_ok.mp accepted)
  | bool | int | float | list | text | bytes | set | pair | date | timestamp => cases accepted

theorem load_json {w : Workspace} {path text : String} {json : Json}
    (isJson : Schema.isJsonFile (Location.ofString path) = true)
    (readable : w.readText (Location.ofString path).toString = .ok text) (reads : Json.read text = .ok json) :
    load w (some path) = ofDocument (Location.ofString path) json.toDocument := by
  have located : locate w (some path) = .ok (some (Location.ofString path)) := by
    simp only [locate, isThere, Workspace.exists?_of_readText readable, bind, Except.bind]
    rfl
  have notYaml : Schema.isYamlFile (Location.ofString path) = false := by
    rw [Schema.isYamlFile, beq_iff_eq.mp isJson]
    decide
  have decoded : readText (Location.ofString path) text = .ok json.toDocument := by
    simp only [readText, notYaml, Json.readDocument, reads, bind, Except.bind]
    rfl
  simp only [load, located, loadFile, readFile, readable, decoded, bind, Except.bind]

end Config

end EnvAudit
