import EnvAudit.Audit.Auditor
import EnvAudit.Proofs.Audit.Rules

namespace EnvAudit
variable [Host]

/-! ## Ignored keys -/

theorem Pattern.anyMatch_texts (patterns : List Pattern) (value : String) :
    anyMatch (patterns.map (·.text)) value = .ok (patterns.any (·.search value)) := by
  induction patterns with
  | nil => rfl
  | cons p patterns ih =>
      rw [List.map_cons, anyMatch, compile_text, List.any_cons]
      by_cases found : p.search value = true
      · simp [found]
      · simp [found, ih]

theorem Pattern.exists_texts {texts : List String} (valid : ∀ text ∈ texts, ∃ p, compile text = .ok p) :
    ∃ patterns : List Pattern, patterns.map (·.text) = texts := by
  induction texts with
  | nil => exact ⟨[], rfl⟩
  | cons text texts ih =>
      rw [List.forall_mem_cons] at valid
      obtain ⟨⟨p, read⟩, valid⟩ := valid
      obtain ⟨patterns, rest⟩ := ih valid
      exact ⟨p :: patterns, by rw [List.map_cons, text_of_compile read, rest]⟩

theorem Assignment.notIgnored_texts (patterns : List Pattern) (as : List Assignment) :
    notIgnored (patterns.map (·.text)) as =
      .ok (as.filter fun a => !patterns.any (·.search a.key)) := by
  induction as with
  | nil => rfl
  | cons a as ih =>
      rw [notIgnored, Pattern.anyMatch_texts, ih, List.filter_cons]
      cases patterns.any (·.search a.key) <;> rfl

def Assignment.isIgnored (texts : List String) (key : String) : Bool :=
  texts.any fun text => (Pattern.compile text).toOption.any (·.search key)

theorem Pattern.anyMatch_cases (texts : List String) (value : String) :
    anyMatch texts value = .ok (Assignment.isIgnored texts value) ∨
      ∃ e, anyMatch texts value = .error e ∧ ∃ text ∈ texts, compile text = .error e := by
  induction texts with
  | nil => exact Or.inl rfl
  | cons text texts ih =>
      rw [anyMatch, Assignment.isIgnored, List.any_cons]
      cases read : compile text with
      | error e => exact Or.inr ⟨e, rfl, text, List.mem_cons_self, read⟩
      | ok p =>
          by_cases found : p.search value = true
          · exact Or.inl (by simp [found, Except.toOption])
          · rcases ih with matched | ⟨e, failed, other, member, flawed⟩
            · exact Or.inl (by simp [found, matched, Except.toOption, Assignment.isIgnored])
            · exact Or.inr ⟨e, by simp [found, failed], other, List.mem_cons_of_mem _ member, flawed⟩

theorem Assignment.notIgnored_cases (texts : List String) (as : List Assignment) :
    notIgnored texts as = .ok (as.filter fun a => !isIgnored texts a.key) ∨
      ∃ e, notIgnored texts as = .error e ∧ ∃ text ∈ texts, Pattern.compile text = .error e := by
  induction as with
  | nil => exact Or.inl rfl
  | cons a as ih =>
      rw [notIgnored, List.filter_cons]
      rcases Pattern.anyMatch_cases texts a.key with matched | ⟨e, failed, flawed⟩
      · rw [matched]
        rcases ih with rest | ⟨e, failed, flawed⟩
        · rw [rest]
          cases isIgnored texts a.key <;> exact Or.inl rfl
        · rw [failed]
          exact Or.inr ⟨e, rfl, flawed⟩
      · rw [failed]
        exact Or.inr ⟨e, rfl, flawed⟩

/-! ## Comparisons -/

theorem Schema.audit_congr (schema : Schema) (patterns : List String) {as bs : List Assignment}
    (same : Assignment.effective as = Assignment.effective bs) :
    schema.audit patterns as = schema.audit patterns bs := by
  rw [Schema.audit, same, Schema.audit]

theorem Reference.audit_congr (samples : List Assignment) (patterns : List String)
    {as bs : List Assignment} (same : Assignment.effective as = Assignment.effective bs) :
    audit samples patterns as = audit samples patterns bs := by
  rw [audit, same, audit]

namespace Auditor

section
variable (auditor : Auditor)

theorem compare_congr (w : Workspace) {as bs : List Assignment}
    (same : Assignment.effective as = Assignment.effective bs) :
    auditor.compare w as = auditor.compare w bs := by
  have schema (s : Schema) : auditor.againstSchema s as = auditor.againstSchema s bs := by
    rw [againstSchema, Schema.audit_congr s _ same, againstSchema]
  have samples : auditor.againstSamples w as = auditor.againstSamples w bs := by
    simp only [againstSamples, Reference.audit_congr _ _ same]
  simp only [compare, schema, samples]

def securityRules (w : Workspace) : Except Failure (List SecurityRule) :=
  match auditor.mode with
  | .schema | .both => (auditor.loadSchema w).map (auditor.config.securityRules ++ ·.securityRules)
  | .example | .unsupported _ => .ok auditor.config.securityRules

theorem securityRules_of_compare {w : Workspace} {as : List Assignment}
    {compared : Verdict × List SecurityRule} (h : auditor.compare w as = .ok compared) :
    auditor.securityRules w = .ok (auditor.config.securityRules ++ compared.2) := by
  unfold compare at h
  unfold securityRules
  split at h <;> rename_i mode <;> rw [mode]
  · obtain ⟨schema, loaded, h⟩ := ok_of_bind h
    obtain ⟨verdict, -, h⟩ := ok_of_bind h
    rw [loaded, ← Except.ok.inj h]
    rfl
  · obtain ⟨verdict, -, h⟩ := ok_of_bind h
    rw [← Except.ok.inj h, List.append_nil]
  · obtain ⟨schema, loaded, h⟩ := ok_of_bind h
    obtain ⟨first, -, h⟩ := ok_of_bind h
    obtain ⟨second, -, h⟩ := ok_of_bind h
    rw [loaded, ← Except.ok.inj h]
    rfl
  · cases h

/-! ## Everything behind the comparison -/

def afterwards (file : EnvFile) (rules : List SecurityRule) : Findings :=
  Rule.found auditor.config.customRules file.effective ++ { info := repeatedNotes file } ++
    Security.analyze (auditor.config.securityRules ++ rules) file.assignments

def securityIssues (file : EnvFile) (rules : List SecurityRule) : Int :=
  (Security.analyze (auditor.config.securityRules ++ rules) file.assignments).errors.length

def concluded (file : EnvFile) (compared : Verdict × List SecurityRule) : Verdict :=
  .ofFindings (compared.1.findings ++ auditor.afterwards file compared.2)
    { compared.1.summary with securityIssues := auditor.securityIssues file compared.2 }

theorem conclude_eq (file : EnvFile) (compared : Verdict × List SecurityRule) :
    auditor.conclude file compared =
      (Rule.answers auditor.config.customRules file.effective).map fun _ => auditor.concluded file compared := by
  unfold conclude
  rw [Rule.applyAll_eq]
  cases Rule.answers auditor.config.customRules file.effective with
  | error failure => rfl
  | ok _ => simp only [concluded, afterwards, securityIssues, Findings.append_assoc]; rfl

theorem audit_of_wellFormed {file : EnvFile} (wellFormed : file.malformed = []) (w : Workspace) :
    auditor.audit w file = (auditor.compare w file.assignments).bind (auditor.conclude file) := by
  rw [audit, wellFormed]
  rfl

end

end Auditor

/-! ## The security analysis -/

namespace Security

inductive Finds (a : Assignment) : Finding → Prop
  | ruled (rule : SecurityRule) : Finds a (ruleFinding rule a)
  | weak : Finds a (weakSecretError a)
  | risk (message hint : String) : Finds a (warning .securityRisk a message hint)
  | sign (message hint : String) : Finds a (warning .weakPattern a message hint)
  | noted (message : String) : Finds a (note a message)

theorem finds_of_mem_check {rules : List SecurityRule} {a : Assignment} {f : Finding} (h : f ∈ check rules a) :
    Finds a f := by
  simp only [check, List.mem_append] at h
  rcases h with ((ruled | secret) | signed) | exposed
  · obtain ⟨rule, -, rfl⟩ := List.mem_map.mp ruled
    exact .ruled rule
  · unfold checkSecret at secret
    split at secret
    · rcases List.mem_append.mp secret with shaped | weak
      · obtain ⟨shape, -, rfl⟩ := Option.map_eq_some_iff.mp (Option.mem_toList.mp shaped)
        exact .risk _ _
      · split at weak
        · exact List.mem_singleton.mp weak ▸ .weak
        · cases weak
    · cases secret
  · rcases List.mem_append.mp signed with sign | placeholder
    · obtain ⟨sign, -, rfl⟩ := List.mem_map.mp sign
      unfold signFinding
      split
      · exact .noted _
      · exact .sign _ _
    · split at placeholder
      · exact List.mem_singleton.mp placeholder ▸ .sign _ _
      · cases placeholder
  · rcases List.mem_append.mp exposed with data | credentials
    · obtain ⟨data, -, rfl⟩ := List.mem_map.mp data
      exact .risk _ _
    · split at credentials
      · exact List.mem_singleton.mp credentials ▸ .risk _ _
      · cases credentials

theorem mem_analyze {rules : List SecurityRule} {as : List Assignment} {s : Severity} {f : Finding} :
    f ∈ (analyze rules as).bySeverity s ↔
      (∃ a ∈ as, f ∈ check (builtinRules ++ rules) a) ∧ f.severity = s := by
  simp only [analyze, Findings.bySeverity_ofList, List.mem_filter, List.mem_flatMap, beq_iff_eq]

theorem analyze_mono {rules more : List SecurityRule} (h : rules ⊆ more) {as : List Assignment}
    {s : Severity} {f : Finding} (found : f ∈ (analyze rules as).bySeverity s) :
    f ∈ (analyze more as).bySeverity s := by
  rw [mem_analyze] at found ⊢
  obtain ⟨⟨a, member, found⟩, severity⟩ := found
  refine ⟨⟨a, member, ?_⟩, severity⟩
  have all : builtinRules ++ rules ⊆ builtinRules ++ more := List.append_subset.mpr
    ⟨List.subset_append_left _ _, List.subset_append_of_subset_right _ h⟩
  have rulesIn : checkRules (builtinRules ++ rules) a ⊆ checkRules (builtinRules ++ more) a :=
    List.map_subset _ (List.filter_subset _ all)
  simp only [check, List.mem_append] at found ⊢
  exact found.imp_left (Or.imp_left (Or.imp_left fun m => rulesIn m))

theorem analyze_insert (rules : List SecurityRule) (before after : List Assignment) (x : Assignment) :
    (analyze rules (before ++ x :: after)).Perm
      (analyze rules (before ++ after) ++ analyze rules [x]) := by
  intro s
  rw [Findings.bySeverity_append]
  simp only [analyze, Findings.bySeverity_ofList]
  rw [← List.filter_append, ← List.flatMap_append]
  refine List.Perm.filter _ (List.Perm.flatMap_right _ ?_)
  exact List.perm_middle.trans (List.perm_append_singleton x (before ++ after)).symm

end Security

end EnvAudit
