import EnvAudit.Proofs.Audit.Stages

/-!
# What a file is compared with

An audit falls into two parts. The first finds the schema and the samples and makes the checks of all rules; of the
file it sees the winning assignments only. The second does not fail any more. `compare_eq` and `audit_eq` say so; the
rest of the theory of audits speaks of a `Basis` and the verdict that it gives.
-/

namespace EnvAudit
variable [Host]

namespace Assignment

def unmatched (ignored : List Pattern) (as : List Assignment) : List Assignment :=
  as.filter fun a => !ignored.any (·.search a.key)

theorem mem_of_mem_unmatched {ignored : List Pattern} {as : List Assignment} {a : Assignment}
    {p : Assignment → Bool} (h : a ∈ unmatched ignored (as.filter p)) : a ∈ as ∧ p a = true :=
  List.mem_filter.mp (List.mem_of_mem_filter h)

end Assignment

theorem VariableSpec.eq_formatError_of_mem {spec : VariableSpec} {a : Assignment} {f : Finding}
    (h : f ∈ spec.valueErrors a) : ∃ complaint, f = spec.formatError a complaint := by
  have typed (m : f ∈ spec.typeErrors a) : ∃ complaint, f = spec.formatError a complaint := by
    unfold typeErrors at m
    split at m
    · split at m
      · cases m
      · exact ⟨_, List.mem_singleton.mp m⟩
    · cases m
  have matched (m : f ∈ spec.patternErrors a) : ∃ complaint, f = spec.formatError a complaint := by
    unfold patternErrors at m
    split at m
    · exact ⟨_, List.mem_singleton.mp m⟩
    · cases m
  unfold valueErrors at h
  split at h
  · split at h
    · cases h
    · exact ⟨_, List.mem_singleton.mp h⟩
  · exact (List.mem_append.mp h).elim typed matched

def VariableSpec.deprecationWarning (spec : VariableSpec) (a : Assignment) : Finding where
  kind := .deprecated
  variableName := a.key
  message := "Variable '" ++ a.key ++ "' is deprecated"
  line := some a.line
  suggestion := some spec.replacementHint
  severity := .warning

theorem VariableSpec.eq_deprecationWarning_of_mem {spec : VariableSpec} {a : Assignment} {f : Finding}
    (h : f ∈ spec.deprecationWarnings a) : f = spec.deprecationWarning a := by
  unfold deprecationWarnings at h
  split at h
  · exact List.mem_singleton.mp h
  · cases h

namespace Schema

def undeclared (schema : Schema) (ignored : List Pattern) (observed : List Assignment) : List Assignment :=
  Assignment.unmatched (schema.ignorePatterns ++ ignored) (observed.filter fun a => (schema.spec? a.key).isNone)

def allFindings (schema : Schema) (observed undeclared : List Assignment) : Findings :=
  schema.findings observed undeclared ++ Rule.found schema.rules observed

def verdict (schema : Schema) (ignored : List Pattern) (observed : List Assignment) : Verdict :=
  let found := schema.allFindings observed (schema.undeclared ignored observed)
  .ofFindings found (schema.summary observed found)

theorem audit_texts (schema : Schema) (ignored : List Pattern) (as : List Assignment) :
    schema.audit (ignored.map (·.text)) as = (Rule.answers schema.rules (Assignment.effective as)).map
      fun _ => schema.verdict ignored (Assignment.effective as) := by
  rw [audit, ← List.map_append]
  simp only [Assignment.notIgnored_texts, Rule.applyAll_eq]
  cases Rule.answers schema.rules (Assignment.effective as) <;> rfl

end Schema

namespace Reference

def missing (ignored : List Pattern) (reference observed : List Assignment) : List Assignment :=
  Assignment.unmatched ignored (reference.filter fun sample => !Assignment.assigns observed sample.key)

def extra (ignored : List Pattern) (reference observed : List Assignment) : List Assignment :=
  Assignment.unmatched ignored (observed.filter fun a => !Assignment.assigns reference a.key)

def verdict (reference : List Assignment) (ignored : List Pattern) (observed : List Assignment) : Verdict :=
  let found := findings reference observed (missing ignored reference observed) (extra ignored reference observed)
  .ofFindings found (summary reference observed found)

theorem audit_texts (samples : List Assignment) (ignored : List Pattern) (as : List Assignment) :
    audit samples (ignored.map (·.text)) as =
      .ok (verdict (Assignment.effective samples) ignored (Assignment.effective as)) := by
  unfold audit
  simp only [Assignment.notIgnored_texts]
  rfl

end Reference

/-- What a file is compared with. -/
inductive Basis where
  | schema (schema : Schema)
  | samples (samples : List Assignment)
  | both (schema : Schema) (samples : List Assignment)

namespace Basis

def verdict (ignored : List Pattern) (observed : List Assignment) : Basis → Verdict
  | schema s => s.verdict ignored observed
  | samples l => Reference.verdict (Assignment.effective l) ignored observed
  | both s l => (s.verdict ignored observed).merge (Reference.verdict (Assignment.effective l) ignored observed)

def securityRules : Basis → List SecurityRule
  | schema s | both s _ => s.securityRules
  | samples _ => []

end Basis

namespace Auditor

/-- What a file is compared with, unless a check of the schema raises something. -/
def grounds (auditor : Auditor) (w : Workspace) (observed : List Assignment) : Except Failure Basis :=
  match auditor.mode with
  | .schema => do
    let schema ← auditor.loadSchema w
    Rule.answers schema.rules observed
    return .schema schema
  | .example => (auditor.loadSamples w).map .samples
  | .both => do
    let schema ← auditor.loadSchema w
    Rule.answers schema.rules observed
    return .both schema (← auditor.loadSamples w)
  | .unsupported value => .error (unknownMode value)

def basis (auditor : Auditor) (w : Workspace) (observed : List Assignment) : Except Failure Basis := do
  let found ← auditor.grounds w observed
  Rule.answers auditor.config.customRules observed
  return found

section
variable {auditor : Auditor} {w : Workspace} {observed : List Assignment} {basis : Basis}

theorem grounds_of_schema (mode : auditor.mode = .schema) : auditor.grounds w observed = .ok basis ↔
    ∃ schema, auditor.loadSchema w = .ok schema ∧ Rule.answers schema.rules observed = .ok () ∧
      basis = .schema schema := by
  rw [grounds, mode]
  cases auditor.loadSchema w with
  | error failure => simp [bind, Except.bind]
  | ok schema =>
      cases answers : Rule.answers schema.rules observed <;>
        simp [bind, Except.bind, pure, Except.pure, answers, eq_comm]

theorem grounds_of_example (mode : auditor.mode = .example) : auditor.grounds w observed = .ok basis ↔
    ∃ samples, auditor.loadSamples w = .ok samples ∧ basis = .samples samples := by
  rw [grounds, mode]
  cases auditor.loadSamples w <;> simp [Except.map, eq_comm]

theorem basis_of_schema {schema : Schema} (mode : auditor.mode = .schema) (usable : auditor.loadSchema w = .ok schema) :
    auditor.basis w observed =
      (Rule.answers (schema.rules ++ auditor.config.customRules) observed).map fun _ => .schema schema := by
  simp only [Auditor.basis, grounds, mode, usable, Rule.answers_append, bind, Except.bind]
  cases Rule.answers schema.rules observed with
  | error failure => rfl
  | ok _ => cases Rule.answers auditor.config.customRules observed <;> rfl

theorem basis_of_example {samples : List Assignment} (mode : auditor.mode = .example)
    (usable : auditor.loadSamples w = .ok samples) : auditor.basis w observed =
      (Rule.answers auditor.config.customRules observed).map fun _ => .samples samples := by
  simp only [Auditor.basis, grounds, mode, usable, bind, Except.bind, Except.map]
  cases Rule.answers auditor.config.customRules observed <;> rfl

theorem basis_of_both {schema : Schema} {samples : List Assignment} (mode : auditor.mode = .both)
    (usable : auditor.loadSchema w = .ok schema) (sampled : auditor.loadSamples w = .ok samples) :
    auditor.basis w observed =
      (Rule.answers (schema.rules ++ auditor.config.customRules) observed).map fun _ => .both schema samples := by
  simp only [Auditor.basis, grounds, mode, usable, sampled, Rule.answers_append, bind, Except.bind]
  cases Rule.answers schema.rules observed with
  | error failure => rfl
  | ok _ => cases Rule.answers auditor.config.customRules observed <;> rfl

theorem basis_eq_ok : auditor.basis w observed = .ok basis ↔
    auditor.grounds w observed = .ok basis ∧ Rule.answers auditor.config.customRules observed = .ok () := by
  rw [Auditor.basis]
  cases auditor.grounds w observed with
  | error failure => simp [bind, Except.bind]
  | ok found =>
      cases Rule.answers auditor.config.customRules observed <;> simp [bind, Except.bind, pure, Except.pure]

end

section
variable (auditor : Auditor) (w : Workspace)

theorem againstSchema_eq (schema : Schema) (as : List Assignment) :
    auditor.againstSchema schema as = (Rule.answers schema.rules (Assignment.effective as)).map
      fun _ => schema.verdict auditor.config.ignorePatterns (Assignment.effective as) := by
  rw [againstSchema, ignoreTexts, Schema.audit_texts]

theorem againstSamples_eq (as : List Assignment) :
    auditor.againstSamples w as = (auditor.loadSamples w).map fun samples =>
      Reference.verdict (Assignment.effective samples) auditor.config.ignorePatterns
        (Assignment.effective as) := by
  rw [againstSamples]
  cases auditor.loadSamples w with
  | error failure => rfl
  | ok samples =>
      rw [ignoreTexts]
      simp only [Reference.audit_texts]
      rfl

theorem compare_eq (as : List Assignment) :
    auditor.compare w as = (auditor.grounds w (Assignment.effective as)).map fun basis =>
      (basis.verdict auditor.config.ignorePatterns (Assignment.effective as), basis.securityRules) := by
  unfold compare grounds
  simp only [againstSchema_eq, againstSamples_eq]
  cases auditor.mode with
  | schema =>
      cases auditor.loadSchema w with
      | error failure => rfl
      | ok schema =>
          simp only [bind, Except.bind]
          cases Rule.answers schema.rules (Assignment.effective as) <;> rfl
  | «example» => cases auditor.loadSamples w <;> rfl
  | both =>
      cases auditor.loadSchema w with
      | error failure => rfl
      | ok schema =>
          simp only [bind, Except.bind]
          cases Rule.answers schema.rules (Assignment.effective as) with
          | error failure => rfl
          | ok _ => cases auditor.loadSamples w <;> rfl
  | unsupported value => rfl

def verdict (file : EnvFile) (basis : Basis) : Verdict :=
  auditor.concluded file
    (basis.verdict auditor.config.ignorePatterns (Assignment.effective file.assignments), basis.securityRules)

/-- Only the basis of an audit may be missing. -/
theorem audit_eq {file : EnvFile} (wellFormed : file.malformed = []) :
    auditor.audit w file = (auditor.basis w file.effective).map (auditor.verdict file) := by
  rw [auditor.audit_of_wellFormed wellFormed, compare_eq]
  simp only [basis, EnvFile.effective, bind, Except.bind, Except.map]
  cases auditor.grounds w (Assignment.effective file.assignments) with
  | error failure => rfl
  | ok basis =>
      simp only [conclude_eq, EnvFile.effective]
      cases Rule.answers auditor.config.customRules (Assignment.effective file.assignments) <;> rfl

theorem grounds_endsAlike {as bs : List Assignment}
    (same : ∀ rules, Rule.answers rules as = .ok () ↔ Rule.answers rules bs = .ok ()) :
    EndsAlike (· = ·) (auditor.grounds w as) (auditor.grounds w bs) := by
  have checked (rules : List Rule) := Rule.answers_endsAlike (same rules)
  unfold grounds
  split
  · exact (EndsAlike.refl (fun _ => rfl) (auditor.loadSchema w)).bind fun schema _ together =>
      together ▸ (checked schema.rules).map fun _ _ _ => rfl
  · exact EndsAlike.refl (fun _ => rfl) _
  · exact (EndsAlike.refl (fun _ => rfl) (auditor.loadSchema w)).bind fun schema _ together =>
      together ▸ (checked schema.rules).bind fun _ _ _ => EndsAlike.refl (fun _ => rfl) _
  · exact .error _

/-- If the same checks raise something on two files, then both or neither can be compared. -/
theorem basis_endsAlike {as bs : List Assignment}
    (same : ∀ rules, Rule.answers rules as = .ok () ↔ Rule.answers rules bs = .ok ()) :
    EndsAlike (· = ·) (auditor.basis w as) (auditor.basis w bs) :=
  (auditor.grounds_endsAlike w same).bind fun _ _ together =>
    together ▸ (Rule.answers_endsAlike (same _)).map fun _ _ _ => rfl

theorem audit_eq_ok {file : EnvFile} (wellFormed : file.malformed = []) {v : Verdict} :
    auditor.audit w file = .ok v ↔
      ∃ basis, auditor.basis w file.effective = .ok basis ∧ v = auditor.verdict file basis := by
  rw [audit_eq auditor w wellFormed]
  cases auditor.basis w file.effective with
  | error failure => simp [Except.map]
  | ok basis => simp [Except.map, eq_comm]

end

end Auditor

end EnvAudit
