import EnvAudit.Catalogue
import EnvAudit.Proofs.Audit.Counts
import EnvAudit.Proofs.Audit.Order
import EnvAudit.Proofs.EnvFile.Accounting

/-!
# Where findings point

A finding that a variable is missing stands nowhere in the file; every other finding carries the key and the line
of an assignment. All stages but the security analysis look at the winning assignments, so theirs is the last
assignment of the key. Of each stage it is told that a finding of it `Misses` a key that is expected, or is about an
assignment that the stage looks at. Main statement: `auditText_places`.
-/

namespace EnvAudit

namespace Assignment

/-- The last assignment of a key, whose line is the greatest of all that assign it. -/
structure IsLast (as : List Assignment) (a : Assignment) : Prop where
  place : ∃ before after, as = before ++ a :: after ∧ a.key ∉ after.map (·.key)
  greatest : ∀ b ∈ as, b.key = a.key → b.line ≤ a.line

theorem isLast_of_mem_effective {as : List Assignment} (increase : (as.map (·.line)).Pairwise (· < ·))
    {a : Assignment} (wins : a ∈ effective as) : IsLast as a := by
  obtain ⟨before, after, rfl, last⟩ := mem_effective_iff.mp wins
  refine ⟨⟨before, after, rfl, last⟩, fun b member same => ?_⟩
  rw [List.map_append, List.pairwise_append] at increase
  rcases List.mem_append.mp member with above | below
  · exact (increase.2.2 b.line (List.mem_map_of_mem above) a.line (by simp)).le
  · rcases List.mem_cons.mp below with rfl | later
    · exact le_rfl
    · exact absurd (same ▸ List.mem_map_of_mem later) last

end Assignment

theorem Findings.mem_toList {fs : Findings} {f : Finding} : f ∈ fs.toList ↔ ∃ s, f ∈ fs.bySeverity s := by
  simp only [toList, List.mem_append]
  constructor
  · rintro ((error | warning) | info)
    · exact ⟨.error, error⟩
    · exact ⟨.warning, warning⟩
    · exact ⟨.info, info⟩
  · rintro ⟨s, member⟩
    cases s with
    | error => exact Or.inl (Or.inl member)
    | warning => exact Or.inl (Or.inr member)
    | info => exact Or.inr member

theorem Findings.mem_toList_append {fs gs : Findings} {f : Finding} :
    f ∈ (fs ++ gs).toList ↔ f ∈ fs.toList ∨ f ∈ gs.toList := by
  simp only [mem_toList, bySeverity_append, List.mem_append, exists_or]

namespace Finding

/-- A finding that carries the key and the line of an assignment. -/
structure PointsTo (f : Finding) (a : Assignment) : Prop where
  variableName : f.variableName = a.key
  line : f.line = some a.line

/-- A finding that points to one of some assignments, or tells that a key is missing among them. -/
inductive IsPlaced (as : List Assignment) (f : Finding) : Prop
  | missing (kind : f.kind = .missingRequired) (line : f.line = none)
      (unassigned : f.variableName ∉ as.map (·.key))
  | assigned (kind : f.kind ≠ .missingRequired) (a : Assignment) (member : a ∈ as) (points : f.PointsTo a)

/-- A finding that one of the keys that are expected is missing among some assignments. -/
structure Misses (expected : List String) (as : List Assignment) (f : Finding) : Prop where
  kind : f.kind = .missingRequired
  line : f.line = none
  expected : f.variableName ∈ expected
  unassigned : Assignment.assigns as f.variableName = false

structure IsPresent (as : List Assignment) (f : Finding) : Prop where
  kind : f.kind ≠ .missingRequired
  points : ∃ a ∈ as, f.PointsTo a

section
variable {expected : List String} {as : List Assignment} {f : Finding}

theorem Misses.mono {others : List String} (h : f.Misses expected as) (all : expected ⊆ others) :
    f.Misses others as :=
  ⟨h.kind, h.line, all h.expected, h.unassigned⟩

theorem Misses.of_effective (h : f.Misses expected (Assignment.effective as)) : f.Misses expected as :=
  ⟨h.kind, h.line, h.expected, Assignment.assigns_effective ▸ h.unassigned⟩

theorem IsPresent.of_effective (h : f.IsPresent (Assignment.effective as)) : f.IsPresent as := by
  obtain ⟨a, member, points⟩ := h.points
  exact ⟨h.kind, a, Assignment.effective_subset as member, points⟩

theorem IsPresent.isLast (h : f.IsPresent (Assignment.effective as))
    (increase : (as.map (·.line)).Pairwise (· < ·)) : ∃ a, Assignment.IsLast as a ∧ f.PointsTo a := by
  obtain ⟨a, member, points⟩ := h.points
  exact ⟨a, Assignment.isLast_of_mem_effective increase member, points⟩

theorem isPlaced_of_misses_or_isPresent (h : f.Misses expected as ∨ f.IsPresent as) : f.IsPlaced as := by
  rcases h with misses | ⟨kind, a, member, points⟩
  · refine .missing misses.kind misses.line fun assigned => ?_
    rw [← Assignment.assigns_iff, misses.unassigned] at assigned
    cases assigned
  · exact .assigned kind a member points

end

end Finding

/-! ## The stages -/

theorem Reference.isPresent_compare {observed : List Assignment} {a sample : Assignment}
    {f : Finding} (member : a ∈ observed) (h : compare a sample = some f) : f.IsPresent observed := by
  rcases compare_eq_some h with rfl | ⟨shape, rfl⟩
  · exact ⟨(fun same => by cases same), a, member, rfl, rfl⟩
  · exact ⟨(fun same => by cases same), a, member, rfl, rfl⟩

namespace Auditor

section
variable (file : EnvFile)

theorem mem_repeatedNotes {f : Finding} : f ∈ repeatedNotes file ↔
    ∃ key ∈ file.repeatedKeys, ∃ a, file.lookup? key = some a ∧ repeatedNote a = f := by
  simp only [repeatedNotes, List.mem_map, List.mem_filterMap]
  constructor
  · rintro ⟨a, ⟨key, repeats, found⟩, rfl⟩
    exact ⟨key, repeats, a, found, rfl⟩
  · rintro ⟨key, repeats, a, found, rfl⟩
    exact ⟨a, ⟨key, repeats, found⟩, rfl⟩

theorem variableNames_repeatedNotes : (repeatedNotes file).map (·.variableName) = file.repeatedKeys := by
  have winner : ∀ key ∈ file.repeatedKeys, (file.lookup? key).map (·.key) = some key := by
    intro key repeats
    have twice := Assignment.mem_repeatedKeys.mp repeats
    have assigned : key ∈ file.assignments.map (·.key) := List.count_pos_iff.mp (Nat.zero_lt_two.trans_le twice)
    obtain ⟨a, found⟩ := Option.isSome_iff_exists.mp (Assignment.lookup?_isSome_iff.mpr assigned)
    rw [EnvFile.lookup?, found, Option.map_some, (Assignment.mem_effective_of_lookup? found).2]
  calc (repeatedNotes file).map (·.variableName)
    _ = file.repeatedKeys.filterMap fun key => (file.lookup? key).map (·.key) := by
      rw [repeatedNotes, List.map_map, List.map_filterMap]
      rfl
    _ = file.repeatedKeys.filterMap some := List.filterMap_congr winner
    _ = file.repeatedKeys := List.filterMap_some

theorem isPresent_repeatedNotes {f : Finding} (h : f ∈ repeatedNotes file) : f.IsPresent file.effective := by
  obtain ⟨key, -, a, found, rfl⟩ := (mem_repeatedNotes file).mp h
  exact ⟨(fun same => by cases same), a, (Assignment.mem_effective_of_lookup? found).1, rfl, rfl⟩

end

end Auditor

section
variable [Host]

theorem Rule.isPresent_found {rules : List Rule} {as : List Assignment} {s : Severity} {f : Finding}
    (h : f ∈ (found rules as).bySeverity s) : f.IsPresent as := by
  have kind : f.kind ≠ .missingRequired := by rcases kind_of_mem_found h with kind | kind <;> simp [kind]
  obtain ⟨rule, a, member, rfl, -⟩ := exists_of_mem_found h
  exact ⟨kind, a, member, rfl, rfl⟩

namespace Security

theorem Finds.pointsTo {a : Assignment} {f : Finding} (h : Finds a f) : f.PointsTo a := by
  cases h with
  | ruled rule =>
      unfold ruleFinding
      split <;> exact ⟨rfl, rfl⟩
  | weak => exact ⟨rfl, rfl⟩
  | risk message hint => exact ⟨rfl, rfl⟩
  | sign message hint => exact ⟨rfl, rfl⟩
  | noted message => exact ⟨rfl, rfl⟩

theorem isPresent_analyze {rules : List SecurityRule} {as : List Assignment} {s : Severity} {f : Finding}
    (h : f ∈ (analyze rules as).bySeverity s) : f.IsPresent as := by
  have kind : f.kind ≠ .missingRequired := by
    rcases kind_of_mem_analyze h with kind | ⟨kind, -⟩ | ⟨kind, -⟩ <;> simp [kind]
  obtain ⟨⟨a, member, found⟩, -⟩ := mem_analyze.mp h
  exact ⟨kind, a, member, (finds_of_mem_check found).pointsTo⟩

end Security

section
variable {ignored : List Pattern} {observed : List Assignment} {s : Severity} {f : Finding}

theorem VariableSpec.isPresent_valueErrors {spec : VariableSpec} {a : Assignment} (member : a ∈ observed)
    (h : f ∈ spec.valueErrors a) : f.IsPresent observed := by
  obtain ⟨complaint, rfl⟩ := spec.eq_formatError_of_mem h
  exact ⟨(fun same => by cases same), a, member, rfl, rfl⟩

theorem VariableSpec.isPresent_deprecationWarnings {spec : VariableSpec} {a : Assignment} (member : a ∈ observed)
    (h : f ∈ spec.deprecationWarnings a) : f.IsPresent observed := by
  obtain rfl := spec.eq_deprecationWarning_of_mem h
  exact ⟨(fun same => by cases same), a, member, rfl, rfl⟩

theorem Schema.misses_missingErrors {schema : Schema} (h : f ∈ schema.missingErrors observed) :
    f.Misses (schema.specs.map (·.1)) observed := by
  obtain ⟨⟨key, spec⟩, member, rfl⟩ := List.mem_map.mp h
  have unassigned : Assignment.assigns observed key = false := by
    simpa using (Bool.and_eq_true_iff.mp (List.mem_filter.mp member).2).2
  exact ⟨rfl, rfl, List.mem_map_of_mem (List.mem_of_mem_filter member), unassigned⟩

theorem Schema.mem_verdict {schema : Schema}
    (h : f ∈ (schema.verdict ignored observed).findings.bySeverity s) :
    f.Misses (schema.specs.map (·.1)) observed ∨ f.IsPresent observed := by
  have ruled (m : f ∈ (Rule.found schema.rules observed).bySeverity s) : f.IsPresent observed :=
    Rule.isPresent_found m
  simp only [verdict, allFindings, findings, Verdict.ofFindings, Findings.bySeverity_append, List.mem_append] at h
  refine h.elim (fun compared => ?_) fun m => .inr (ruled m)
  cases s with
  | error =>
      rcases List.mem_append.mp compared with missing | value
      · exact .inl (misses_missingErrors missing)
      · obtain ⟨⟨a, spec⟩, member, found⟩ := List.mem_flatMap.mp value
        exact .inr (spec.isPresent_valueErrors (mem_declared.mp member).1 found)
  | warning =>
      rcases List.mem_append.mp compared with undeclared | deprecated
      · obtain ⟨a, member, rfl⟩ := List.mem_map.mp undeclared
        exact .inr ⟨(fun same => by cases same), a, (Assignment.mem_of_mem_unmatched member).1, rfl, rfl⟩
      · obtain ⟨⟨a, spec⟩, member, found⟩ := List.mem_flatMap.mp deprecated
        exact .inr (spec.isPresent_deprecationWarnings (mem_declared.mp member).1 found)
  | info => cases compared

theorem Reference.mem_verdict {reference : List Assignment}
    (h : f ∈ (verdict reference ignored observed).findings.bySeverity s) :
    f.Misses (reference.map (·.key)) observed ∨ f.IsPresent observed := by
  cases s with
  | error =>
      obtain ⟨sample, member, rfl⟩ := List.mem_map.mp h
      obtain ⟨expected, lacking⟩ := Assignment.mem_of_mem_unmatched member
      have unassigned : Assignment.assigns observed sample.key = false := by simpa using lacking
      exact .inl ⟨rfl, rfl, List.mem_map_of_mem expected, unassigned⟩
  | warning =>
      rcases List.mem_append.mp h with extra | compared
      · obtain ⟨a, member, rfl⟩ := List.mem_map.mp extra
        exact .inr ⟨(fun same => by cases same), a, (Assignment.mem_of_mem_unmatched member).1, rfl, rfl⟩
      · obtain ⟨⟨a, sample⟩, member, found⟩ := List.mem_filterMap.mp compared
        exact .inr (isPresent_compare (mem_paired.mp member).1 found)
  | info =>
      obtain ⟨⟨a, sample⟩, member, rfl⟩ := List.mem_map.mp h
      exact .inr ⟨(fun same => by cases same), a, (mem_paired.mp (List.mem_of_mem_filter member)).1, rfl, rfl⟩

def Basis.keys : Basis → List String
  | schema s => s.specs.map (·.1)
  | samples l => l.map (·.key)
  | both s l => s.specs.map (·.1) ++ l.map (·.key)

theorem Basis.mem_verdict {basis : Basis} (h : f ∈ (basis.verdict ignored observed).findings.bySeverity s) :
    f.Misses basis.keys observed ∨ f.IsPresent observed := by
  have sampled {l : List Assignment}
      (m : f ∈ (Reference.verdict (Assignment.effective l) ignored observed).findings.bySeverity s) :
      f.Misses (l.map (·.key)) observed ∨ f.IsPresent observed :=
    (Reference.mem_verdict m).imp_left fun misses =>
      misses.mono (List.map_subset _ (Assignment.effective_subset l))
  cases basis with
  | schema schema => exact Schema.mem_verdict h
  | samples samples => exact sampled h
  | both schema samples =>
      have found : f ∈ (schema.verdict ignored observed).findings.bySeverity s ++
          (Reference.verdict (Assignment.effective samples) ignored observed).findings.bySeverity s := by
        rw [← Findings.bySeverity_append]
        rw [verdict, Verdict.merge, Verdict.ofFindings, Findings.bySeverity_distinct] at h
        exact (Finding.distinct_sublist _).subset h
      rcases List.mem_append.mp found with bySchema | bySamples
      · exact (Schema.mem_verdict bySchema).imp_left fun misses => misses.mono (List.subset_append_left _ _)
      · exact (sampled bySamples).imp_left fun misses => misses.mono (List.subset_append_right _ _)

end

/-! ## Audits -/

/-- Where the findings of a verdict on a file point. They come from four stages: `compared` from the schema and the
samples, `ruled` from the rules of the configuration, the notes on repeated keys, and `screened` from the security
analysis. -/
structure Verdict.Places (v : Verdict) (file : EnvFile) (compared ruled screened : Findings) : Prop where
  stages : v.findings = compared ++ ruled ++ { info := Auditor.repeatedNotes file } ++ screened
  placed : ∀ f ∈ v.findings.toList, f.IsPlaced file.assignments
  last : ∀ f ∈ (compared ++ ruled ++ { info := Auditor.repeatedNotes file }).toList, f.kind ≠ .missingRequired →
    ∃ a, Assignment.IsLast file.assignments a ∧ f.PointsTo a
  once : ∀ key, ((Auditor.repeatedNotes file).map (·.variableName)).count key =
    if 2 ≤ (file.assignments.map (·.key)).count key then 1 else 0
  named : ∀ f ∈ Auditor.repeatedNotes file, ∃ a, Assignment.IsLast file.assignments a ∧ f.PointsTo a ∧
    f.message = "Variable '" ++ a.key ++ "' is defined multiple times; using the value from line " ++
      Numeral.render a.line

namespace Auditor

section
variable (auditor : Auditor) {file : EnvFile} (basis : Basis) {f : Finding}

/-- What all stages but the security analysis find is about the assignments that win. -/
theorem mem_winning (member : f ∈ ((basis.verdict auditor.config.ignorePatterns file.effective).findings ++
      Rule.found auditor.config.customRules file.effective ++ { info := repeatedNotes file }).toList) :
    f.Misses basis.keys file.effective ∨ f.IsPresent file.effective := by
  obtain ⟨s, member⟩ := Findings.mem_toList.mp member
  simp only [Findings.bySeverity_append, List.mem_append] at member
  rcases member with (compared | ruled) | noted
  · exact Basis.mem_verdict compared
  · exact .inr (Rule.isPresent_found ruled)
  · cases s with
    | error => cases noted
    | warning => cases noted
    | info => exact .inr (isPresent_repeatedNotes file noted)

theorem findings_verdict : (auditor.verdict file basis).findings =
    (basis.verdict auditor.config.ignorePatterns file.effective).findings ++
      Rule.found auditor.config.customRules file.effective ++ { info := repeatedNotes file } ++
        Security.analyze (auditor.config.securityRules ++ basis.securityRules) file.assignments := by
  simp only [verdict, concluded, afterwards, Verdict.ofFindings, EnvFile.effective, Findings.append_assoc]

theorem mem_verdict (member : f ∈ (auditor.verdict file basis).findings.toList) :
    f.Misses basis.keys file.assignments ∨ f.IsPresent file.assignments := by
  rw [findings_verdict] at member
  rcases Findings.mem_toList_append.mp member with winning | screened
  · exact (auditor.mem_winning basis winning).imp Finding.Misses.of_effective Finding.IsPresent.of_effective
  · obtain ⟨s, screened⟩ := Findings.mem_toList.mp screened
    exact .inr (Security.isPresent_analyze screened)

theorem verdict_places (increase : (file.assignments.map (·.line)).Pairwise (· < ·)) :
    (auditor.verdict file basis).Places file
      (basis.verdict auditor.config.ignorePatterns file.effective).findings
      (Rule.found auditor.config.customRules file.effective)
      (Security.analyze (auditor.config.securityRules ++ basis.securityRules) file.assignments) := by
  constructor
  case stages => exact auditor.findings_verdict basis
  case placed => exact fun f member => Finding.isPlaced_of_misses_or_isPresent (auditor.mem_verdict basis member)
  case last =>
    intro f member present
    rcases auditor.mem_winning basis member with misses | isPresent
    · exact absurd misses.kind present
    · exact isPresent.isLast increase
  case once =>
    intro key
    rw [variableNames_repeatedNotes, EnvFile.repeatedKeys, Assignment.count_repeatedKeys]
  case named =>
    intro f member
    obtain ⟨key, -, a, found, rfl⟩ := (mem_repeatedNotes file).mp member
    exact ⟨a, Assignment.isLast_of_mem_effective increase (Assignment.mem_effective_of_lookup? found).1,
      ⟨rfl, rfl⟩, rfl⟩

end

/-- The findings of an audit point to where the variables are assigned, and a variable that is missing is assigned
nowhere. -/
theorem auditText_places (auditor : Auditor) (w : Workspace) (text : String) (v : Verdict)
    (wellFormed : (EnvFile.parse text).malformed = []) (made : auditor.auditText w text = .ok v) :
    ∃ compared rules ruled, auditor.compare w (EnvFile.parse text).assignments = .ok (compared, rules) ∧
      Rule.applyAll auditor.config.customRules (EnvFile.parse text).effective = .ok ruled ∧
      v.Places (EnvFile.parse text) compared.findings ruled
        (Security.analyze (auditor.config.securityRules ++ rules) (EnvFile.parse text).assignments) := by
  have increase := (EnvFile.accounts_ofLines (hasLines_splitLines text.toList).not_mem).assigned_increase
  obtain ⟨basis, found, rfl⟩ := (auditor.audit_eq_ok w wellFormed).mp made
  obtain ⟨found, answers⟩ := basis_eq_ok.mp found
  refine ⟨_, basis.securityRules, _, ?_, Rule.applyAll_eq_ok.mpr ⟨answers, rfl⟩,
    auditor.verdict_places basis increase⟩
  rw [compare_eq, show auditor.grounds w (Assignment.effective (EnvFile.parse text).assignments) = .ok basis from found]
  rfl

end Auditor

end

attribute [local instance] Host.shipped in
theorem Auditor.auditText_places_port :
    let schema : Schema := { specs := [("TOKEN", { required := true }), ("PORT", { type := some .number })] }
    let auditor : Auditor := { config := { mode := some .schema }, schema := some schema }
    let text := "PORT=80\nHOST=localhost\nPORT=http"
    (EnvFile.parse text).malformed = [] ∧ ∃ v, auditor.auditText default text = .ok v ∧
      ∃ compared rules ruled, auditor.compare default (EnvFile.parse text).assignments = .ok (compared, rules) ∧
        Rule.applyAll auditor.config.customRules (EnvFile.parse text).effective = .ok ruled ∧
        v.Places (EnvFile.parse text) compared.findings ruled
          (Security.analyze (auditor.config.securityRules ++ rules) (EnvFile.parse text).assignments) := by
  intro schema auditor text
  have wellFormed : (EnvFile.parse text).malformed = [] := by decide
  have made : auditor.auditText default text = .ok (auditor.verdict (EnvFile.parse text) (.schema schema)) :=
    (auditor.audit_eq_ok default wellFormed).mpr ⟨.schema schema, rfl, rfl⟩
  exact ⟨wellFormed, _, made, auditText_places auditor default text _ wellFormed made⟩

end EnvAudit
