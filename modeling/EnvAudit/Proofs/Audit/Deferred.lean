import EnvAudit.Catalogue
import EnvAudit.Proofs.Audit.Modes
import EnvAudit.Proofs.Config.Loading
import EnvAudit.Proofs.Value.Reading

/-!
# Audits after loading

Patterns are checked when a schema or a configuration is loaded, but the texts of some are all that is kept, which are
read again when an audit comes to them; and the checks of a value try to read it. Here are audits that do so, marked as
`Late`. They agree with those that hold the patterns and know the answers (`Auditor.auditLate_eq`), so nothing that was
accepted lets an audit fail later. Main statement: `Auditor.audit_ofDocuments`.
-/

namespace EnvAudit

def collect {ε α β : Type} (f : α → Except ε (List β)) : List α → Except ε (List β)
  | [] => .ok []
  | a :: as => do return (← f a) ++ (← collect f as)

theorem collect_ok {ε α β : Type} {f : α → Except ε (List β)} {g : α → List β} (answers : ∀ a, f a = .ok (g a))
    (as : List α) : collect f as = .ok (as.flatMap g) := by
  induction as with
  | nil => rfl
  | cons a as ih =>
      rw [collect, answers, ih]
      rfl

def Failure.ofRaised (r : Raised) : Failure := .raised (.raised r)

/-- The check of a type as it is carried out, and what a value of the type has to be. -/
def ValueType.reads? : ValueType → Option ((String → Except Raised Bool) × String)
  | string => none
  | number => some (Value.readsNumber, "a valid number")
  | boolean => some (fun value => .ok (Value.isBoolean value), "true, false, 1, 0, yes, or no")
  | url => some (Value.readsUrl, "a valid URL")
  | email => some (fun value => .ok (Value.isEmail value), "a valid email address")
  | json => some (Value.readsJson, "valid JSON")

theorem ValueType.reads?_eq (type : ValueType) :
    type.reads? = type.check?.map fun (holds, expected) => (fun value => .ok (holds value), expected) := by
  cases type with
  | number => exact congrArg (fun run => some (run, _)) (funext Value.readsNumber_eq)
  | url => exact congrArg (fun run => some (run, _)) (funext Value.readsUrl_eq)
  | json => exact congrArg (fun run => some (run, _)) (funext Value.readsJson_eq)
  | string | boolean | email => rfl

namespace Reference

def trials : List (Shape × (String → Except Raised Bool)) :=
  [(⟨"a URL", "URL", Value.isUrl⟩, Value.readsUrl), (⟨"a number", "number", Value.isNumber⟩, Value.readsNumber),
    (⟨"a boolean", "boolean", Value.isBoolean⟩, fun value => .ok (Value.isBoolean value)),
    (⟨"an email", "email", Value.isEmail⟩, fun value => .ok (Value.isEmail value))]

def mismatch? (a sample : Assignment) : List (Shape × (String → Except Raised Bool)) → Except Raised (Option Shape)
  | [] => .ok none
  | (shape, run) :: trials => do
    if ← run sample.value then
      if ← run a.value then mismatch? a sample trials else return some shape
    else mismatch? a sample trials

def compareLate (a sample : Assignment) : Except Raised (List Finding) :=
  if Text.isBlankText sample.value || Value.isPlaceholder sample.value then .ok []
  else if Text.isBlankText a.value then .ok [emptyWarning a sample]
  else do return ((← mismatch? a sample trials).map (shapeWarning a sample)).toList

theorem trials_answer : ∀ trial ∈ trials, ∀ value, trial.2 value = .ok (trial.1.holds value) := by
  simp [trials, Value.readsUrl_eq, Value.readsNumber_eq]

theorem mismatch?_eq (a sample : Assignment) {trials : List (Shape × (String → Except Raised Bool))}
    (answer : ∀ trial ∈ trials, ∀ value, trial.2 value = .ok (trial.1.holds value)) :
    mismatch? a sample trials =
      .ok ((trials.map (·.1)).find? fun shape => shape.holds sample.value && !shape.holds a.value) := by
  induction trials with
  | nil => rfl
  | cons trial trials ih =>
      obtain ⟨shape, run⟩ := trial
      have first (value : String) : run value = .ok (shape.holds value) := answer (shape, run) (.head _) value
      rw [mismatch?, first sample.value, first a.value, ih fun _ member => answer _ (.tail _ member), List.map_cons,
        List.find?_cons]
      cases shape.holds sample.value <;> cases shape.holds a.value <;> rfl

theorem compareLate_eq (a sample : Assignment) : compareLate a sample = .ok (compare a sample).toList := by
  unfold compareLate compare
  rw [mismatch?_eq a sample trials_answer]
  split
  · rfl
  · split <;> rfl

end Reference

/-! ## Patterns that are read again -/

section
variable [Host]

namespace Pattern

def searchText (text value : String) : Except EnvAudit.Failure Bool :=
  match compile text with
  | .ok pattern => .ok (pattern.search value)
  | .error error => .error (.pattern error)

theorem searchText_text (p : Pattern) (value : String) : searchText p.text value = .ok (p.search value) := by
  rw [searchText, compile_text]

end Pattern

namespace VariableSpec
variable (spec : VariableSpec) (a : Assignment)

def typeErrorsLate : Except Failure (List Finding) :=
  match spec.type.bind ValueType.reads? with
  | some (run, expected) => do
    return if ← (run a.value).mapError .ofRaised then [] else [spec.formatError a ("must be " ++ expected)]
  | none => return []

def patternErrorsLate : Except Failure (List Finding) :=
  match spec.pattern.map (·.text) with
  | some text => do
    return if ← Pattern.searchText text a.value then [] else [spec.formatError a "does not match required pattern"]
  | none => return []

def valueErrorsLate : Except Failure (List Finding) :=
  if Text.isBlankText a.value then return if spec.allowEmpty then [] else [spec.formatError a "cannot be empty"]
  else do return (← spec.typeErrorsLate a) ++ (← spec.patternErrorsLate a)

theorem typeErrorsLate_eq : spec.typeErrorsLate a = .ok (spec.typeErrors a) := by
  unfold typeErrorsLate typeErrors
  cases spec.type with
  | none => rfl
  | some type =>
      rw [Option.bind_some, Option.bind_some, type.reads?_eq]
      cases type.check? with
      | none => rfl
      | some checked => rfl

theorem patternErrorsLate_eq : spec.patternErrorsLate a = .ok (spec.patternErrors a) := by
  unfold patternErrorsLate patternErrors
  cases spec.pattern with
  | none => rfl
  | some pattern =>
      simp only [Option.map_some, Pattern.searchText_text, Option.any_some]
      show Except.ok (if pattern.search a.value = true then [] else _) = _
      by_cases found : pattern.search a.value = true <;> simp [found]

theorem valueErrorsLate_eq : spec.valueErrorsLate a = .ok (spec.valueErrors a) := by
  unfold valueErrorsLate valueErrors
  split
  · rfl
  · rw [typeErrorsLate_eq, patternErrorsLate_eq]
    rfl

end VariableSpec

/-! ## Comparisons -/

def Schema.auditLate (schema : Schema) (patterns : List String) (assignments : List Assignment) :
    Except Failure Verdict := do
  let observed := Assignment.effective assignments
  let undeclared ← (Assignment.notIgnored (schema.ignorePatterns.map (·.text) ++ patterns)
    (observed.filter fun a => (schema.spec? a.key).isNone)).mapError .pattern
  let declared := schema.declared observed
  let valueErrors ← collect (fun entry => entry.2.valueErrorsLate entry.1) declared
  let ruled ← (Rule.applyAll schema.rules observed).mapError .raised
  let found : Findings :=
    { errors := schema.missingErrors observed ++ valueErrors
      warnings := undeclared.map undeclaredWarning ++
        declared.flatMap fun (a, spec) => spec.deprecationWarnings a } ++ ruled
  return .ofFindings found (schema.summary observed found)

theorem Schema.auditLate_eq (schema : Schema) (patterns : List String) (assignments : List Assignment) :
    schema.auditLate patterns assignments = schema.audit patterns assignments := by
  have checked (declared : List (Assignment × VariableSpec)) :=
    collect_ok (fun entry => entry.2.valueErrorsLate_eq entry.1) declared
  unfold auditLate audit
  simp only [checked]
  rfl

def Reference.auditLate (samples : List Assignment) (patterns : List String) (assignments : List Assignment) :
    Except Failure Verdict := do
  let reference := Assignment.effective samples
  let observed := Assignment.effective assignments
  let missing ← (Assignment.notIgnored patterns
    (reference.filter fun sample => !Assignment.assigns observed sample.key)).mapError .pattern
  let extra ← (Assignment.notIgnored patterns
    (observed.filter fun a => !Assignment.assigns reference a.key)).mapError .pattern
  let pairs := paired reference observed
  let compared ← (collect (fun pair => compareLate pair.1 pair.2) pairs).mapError .ofRaised
  let found : Findings :=
    { errors := missing.map missingError
      warnings := extra.map extraWarning ++ compared
      info := (pairs.filter fun (_, sample) => Value.isPlaceholder sample.value).map
        fun (a, sample) => standInNote a sample }
  return .ofFindings found (summary reference observed found)

theorem Reference.auditLate_eq (samples : List Assignment) (patterns : List String) (assignments : List Assignment) :
    auditLate samples patterns assignments = (audit samples patterns assignments).mapError .pattern := by
  have compared (pairs : List (Assignment × Assignment)) :=
    collect_ok (fun pair => compareLate_eq pair.1 pair.2) pairs
  unfold auditLate audit findings
  simp only [compared, ← List.filterMap_eq_flatMap_toList]
  cases Assignment.notIgnored patterns ((Assignment.effective samples).filter fun sample =>
    !Assignment.assigns (Assignment.effective assignments) sample.key) with
  | error flaw => rfl
  | ok missing =>
      cases Assignment.notIgnored patterns ((Assignment.effective assignments).filter fun a =>
        !Assignment.assigns (Assignment.effective samples) a.key) <;> rfl

/-! ## Security -/

namespace Security

def checkDataLate (a : Assignment) : Except Raised (List Finding) := do
  return (sensitiveData.filter (·.1.search a.value)).map (fun (_, name) =>
    warning .securityRisk a ("Potential " ++ name ++ " detected")
      "Verify this sensitive data should be in environment variables") ++
    (if ← Value.readsCredentials a.value then
      [warning .securityRisk a "URL contains embedded credentials" "Store credentials separately from URLs"]
    else [])

def analyzeLate (rules : List SecurityRule) (assignments : List Assignment) : Except Failure Findings := do
  let found ← (collect (fun a => do
    return checkRules (builtinRules ++ rules) a ++ checkSecret a ++ checkSigns a ++ (← checkDataLate a))
    assignments).mapError .ofRaised
  return .ofList found

omit [Host] in
theorem checkDataLate_eq (a : Assignment) : checkDataLate a = .ok (checkData a) := by
  rw [checkDataLate, Value.readsCredentials_eq]
  rfl

theorem analyzeLate_eq (rules : List SecurityRule) (assignments : List Assignment) :
    analyzeLate rules assignments = .ok (analyze rules assignments) := by
  rw [analyzeLate, collect_ok (g := check (builtinRules ++ rules)) fun a => by rw [checkDataLate_eq]; rfl]
  rfl

end Security

/-! ## Audits -/

namespace Auditor

section
variable (auditor : Auditor) (w : Workspace)

def againstSamplesLate (assignments : List Assignment) : Except Failure Verdict := do
  let samples ← auditor.loadSamples w
  Reference.auditLate samples auditor.ignoreTexts assignments

def compareLate (assignments : List Assignment) : Except Failure (Verdict × List SecurityRule) :=
  match auditor.mode with
  | .schema => do
    let schema ← auditor.loadSchema w
    return (← schema.auditLate auditor.ignoreTexts assignments, schema.securityRules)
  | .example => do
    return (← auditor.againstSamplesLate w assignments, [])
  | .both => do
    let schema ← auditor.loadSchema w
    let first ← schema.auditLate auditor.ignoreTexts assignments
    let second ← auditor.againstSamplesLate w assignments
    return (first.merge second, schema.securityRules)
  | .unsupported value => .error (unknownMode value)

def concludeLate (file : EnvFile) (compared : Verdict × List SecurityRule) : Except Failure Verdict := do
  let (verdict, securityRules) := compared
  let ruled ← (Rule.applyAll auditor.config.customRules file.effective).mapError .raised
  let security ← Security.analyzeLate (auditor.config.securityRules ++ securityRules) file.assignments
  let findings := verdict.findings ++ ruled ++ { info := repeatedNotes file } ++ security
  return .ofFindings findings { verdict.summary with securityIssues := security.errors.length }

def auditLate (file : EnvFile) : Except Failure Verdict :=
  if file.malformed.isEmpty then do auditor.concludeLate file (← auditor.compareLate w file.assignments)
  else .ok (.ofMalformed file.malformed .zero)

theorem compareLate_eq (assignments : List Assignment) :
    auditor.compareLate w assignments = auditor.compare w assignments := by
  unfold compareLate compare againstSamplesLate
  simp only [Schema.auditLate_eq, Reference.auditLate_eq]
  rfl

theorem concludeLate_eq (file : EnvFile) (compared : Verdict × List SecurityRule) :
    auditor.concludeLate file compared = auditor.conclude file compared := by
  unfold concludeLate conclude
  simp only [Security.analyzeLate_eq]
  rfl

/-- An audit that reads its patterns again, and its values, is one that holds the patterns and knows the values. -/
theorem auditLate_eq (file : EnvFile) : auditor.auditLate w file = auditor.audit w file := by
  unfold auditLate audit
  simp only [compareLate_eq, concludeLate_eq]

end

def rules (auditor : Auditor) : List Rule := (auditor.schema.elim [] (·.rules)) ++ auditor.config.customRules

def ofDocuments (source : String) (schema config : Document) (samples : List Assignment) :
    Except Failure Auditor := do
  let schema ← Schema.ofDocument source schema
  let config ← (Config.decode config).toExcept (.refused "EnvGuardConfig")
  return { config, schema := some schema, samples := some samples }

theorem exists_basis {auditor : Auditor} {schema : Schema} {samples : List Assignment} {observed : List Assignment}
    (hasSchema : auditor.schema = some schema) (hasSamples : auditor.samples = some samples)
    (mode : ∀ mode ∈ auditor.config.mode, mode ∈ Mode.all)
    (answers : Rule.answers (schema.rules ++ auditor.config.customRules) observed = .ok ()) (w : Workspace) :
    ∃ basis, auditor.basis w observed = .ok basis := by
  have loaded : auditor.loadSchema w = .ok schema := by rw [loadSchema, hasSchema]
  have read : auditor.loadSamples w = .ok samples := by rw [loadSamples, hasSamples]
  have known : auditor.mode ∈ Mode.all := by
    unfold Auditor.mode
    cases chosen : auditor.config.mode with
    | some chosenMode => exact mode _ chosen
    | none =>
        rw [hasSchema, hasSamples]
        exact List.mem_of_getLast? rfl
  simp only [Mode.all, List.mem_cons, List.not_mem_nil, or_false] at known
  rcases known with schemaMode | exampleMode | bothMode
  · rw [basis_of_schema schemaMode loaded, answers]
    exact ⟨_, rfl⟩
  · have own : Rule.answers auditor.config.customRules observed = .ok () := by
      rw [Rule.answers_append] at answers
      obtain ⟨_, -, own⟩ := ok_of_bind answers
      exact own
    rw [basis_of_example exampleMode read, own]
    exact ⟨_, rfl⟩
  · rw [basis_of_both bothMode loaded read, answers]
    exact ⟨_, rfl⟩

/-- Once two documents without checks in their rules are accepted, an audit of a well-formed file gives a verdict, in
the mode that was chosen and in any other: every pattern that it comes to can be read, and every check of a value has
an answer. -/
theorem audit_ofDocuments {source : String} {schema config : Document} {samples : List Assignment}
    {auditor : Auditor} (accepted : ofDocuments source schema config samples = .ok auditor)
    (plain : ∀ rule ∈ auditor.rules, rule.predicate = none) (w : Workspace) {file : EnvFile}
    (wellFormed : file.malformed = []) :
    (∀ run ∈ auditor :: Mode.all.map auditor.withMode,
      ∃ v, run.auditLate w file = .ok v ∧ run.audit w file = .ok v) ∧
    ∀ type : ValueType, ∀ checked ∈ type.reads?, ∀ value, ∃ holds, checked.1 value = .ok holds := by
  obtain ⟨schema, -, accepted⟩ := ok_of_bind accepted
  obtain ⟨config, decoded, accepted⟩ := ok_of_bind accepted
  obtain rfl := Except.ok.inj accepted
  have chosen := Config.mode_of_decode (Checked.toExcept_eq_ok.mp decoded)
  have answers : Rule.answers (schema.rules ++ config.customRules) file.effective = .ok () :=
    Rule.answers_eq_ok.mpr fun rule member a _ check found => by
      rw [plain rule member] at found
      cases found
  constructor
  · intro run member
    have verdict (mode : ∀ mode ∈ run.config.mode, mode ∈ Mode.all) (hasSchema : run.schema = some schema)
        (hasSamples : run.samples = some samples) (same : run.config.customRules = config.customRules) :
        ∃ v, run.auditLate w file = .ok v ∧ run.audit w file = .ok v := by
      obtain ⟨basis, found⟩ := exists_basis hasSchema hasSamples mode (same ▸ answers) w
      have audited := (run.audit_eq_ok w wellFormed).mpr ⟨basis, found, rfl⟩
      exact ⟨_, (run.auditLate_eq w file).trans audited, audited⟩
    rcases List.mem_cons.mp member with rfl | other
    · exact verdict chosen rfl rfl rfl
    · obtain ⟨mode, known, rfl⟩ := List.mem_map.mp other
      refine verdict ?_ rfl rfl rfl
      rintro _ ⟨⟩
      exact known
  · intro type checked found value
    rw [type.reads?_eq] at found
    obtain ⟨⟨holds, expected⟩, -, rfl⟩ := Option.map_eq_some_iff.mp found
    exact ⟨_, rfl⟩

end Auditor

end

namespace Auditor

attribute [local instance] Host.shipped in
theorem audit_ofDocuments_port :
    let port : Document := .map [(.text "type", .text "number"), (.text "pattern", .text "^[0-9]+$")]
    let schema : Document := .map [(.text "variables", .map [(.text "PORT", port)])]
    let config : Document := .map [(.text "mode", .text "schema"), (.text "ignorePatterns", .list [.text "^X_"])]
    let samples : List Assignment := [{ key := "HOST", value := "http://[::1]:80", line := 1 }]
    let file : EnvFile := { assignments := [{ key := "PORT", value := "0x1f", line := 1 },
      { key := "HOST", value := "http://[::1]:port", line := 2 }] }
    ∃ auditor, ofDocuments "schema.yaml" schema config samples = .ok auditor ∧
      (∀ rule ∈ auditor.rules, rule.predicate = none) ∧ file.malformed = [] ∧
      (∀ run ∈ auditor :: Mode.all.map auditor.withMode,
        ∃ v, run.auditLate default file = .ok v ∧ run.audit default file = .ok v) ∧
      ∀ type : ValueType, ∀ checked ∈ type.reads?, ∀ value, ∃ holds, checked.1 value = .ok holds := by
  intro port schema config samples file
  have accepted : ∃ auditor, ofDocuments "schema.yaml" schema config samples = .ok auditor ∧ auditor.rules = [] :=
    ⟨_, rfl, rfl⟩
  obtain ⟨auditor, accepted, none⟩ := accepted
  have plain : ∀ rule ∈ auditor.rules, rule.predicate = Option.none := by simp [none]
  exact ⟨auditor, accepted, plain, rfl, audit_ofDocuments accepted plain default rfl⟩

end Auditor

attribute [local instance] Host.shipped in
example : defaultIgnorePatterns.map (·.text) = defaultIgnoreTexts := by decide +kernel

end EnvAudit
