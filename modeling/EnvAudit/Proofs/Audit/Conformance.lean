import EnvAudit.Catalogue
import EnvAudit.Proofs.Audit.Counts
import EnvAudit.Proofs.Audit.Order
import EnvAudit.Proofs.EnvFile.Resolution

namespace EnvAudit

/-! ## What is asked of values -/

namespace ValueType

/-- The values of a type. -/
def Admits : ValueType → String → Prop
  | string, _ => True
  | number, value => Value.isNumber value = true
  | boolean, value => Value.isBoolean value = true
  | url, value => Value.isUrl value = true
  | email, value => Value.isEmail value = true
  | json, value => Value.isJson value = true

theorem admits_iff {type : ValueType} {value : String} :
    type.Admits value ↔ ∀ check ∈ type.check?, check.1 value = true := by
  cases type <;> simp only [Admits, check?, Option.mem_def, Option.some.injEq, forall_eq', reduceCtorEq, false_implies,
    implies_true]

end ValueType

section
variable [Host]

namespace VariableSpec

/-- A blank value is admitted where that is allowed, any other one if it is of the type and matches the pattern. -/
def Admits (spec : VariableSpec) (value : String) : Prop :=
  (Text.isBlankText value = true ∧ spec.allowEmpty = true) ∨
    (Text.isBlankText value = false ∧ (∀ type ∈ spec.type, type.Admits value) ∧
      ∀ pattern ∈ spec.pattern, pattern.search value = true)

variable {spec : VariableSpec} {a : Assignment}

theorem typeErrors_eq_nil_iff : spec.typeErrors a = [] ↔ ∀ type ∈ spec.type, type.Admits a.value := by
  simp only [ValueType.admits_iff]
  unfold typeErrors
  cases spec.type with
  | none => simp
  | some type =>
      simp only [Option.bind_some, Option.mem_some_iff, forall_eq']
      cases type.check? with
      | none => simp
      | some check => simp

theorem patternErrors_eq_nil_iff :
    spec.patternErrors a = [] ↔ ∀ pattern ∈ spec.pattern, pattern.search a.value = true := by
  unfold patternErrors
  cases spec.pattern with
  | none => simp
  | some pattern => simp

theorem valueErrors_eq_nil_iff : spec.valueErrors a = [] ↔ spec.Admits a.value := by
  unfold valueErrors Admits
  cases Text.isBlankText a.value with
  | true => simp
  | false => simp [typeErrors_eq_nil_iff, patternErrors_eq_nil_iff]

end VariableSpec

namespace Rule

/-- The values that satisfy the pattern and the check of a rule, where it has them. -/
def Admits (rule : Rule) (value : String) : Prop :=
  (∀ pattern ∈ rule.pattern, pattern.search value = true) ∧ ∀ check ∈ rule.predicate, check value = .ok true

theorem count_eq_zero_iff {rule : Rule} {value : String} (answers : rule.Answers value) :
    rule.count value = 0 ↔ rule.Admits value := by
  have predicate : rule.predicate.any (fun check => (check value).toOption == some false) = false ↔
      ∀ check ∈ rule.predicate, check value = .ok true := by
    cases given : rule.predicate with
    | none => simp
    | some check =>
        obtain ⟨holds, answer⟩ := answers check given
        cases holds <;> simp [answer, Except.toOption]
  unfold count Admits
  rw [← predicate]
  cases rule.pattern <;> simp

theorem foundBy_eq_nil_iff {rule : Rule} {as : List Assignment} (answers : ∀ a ∈ as, rule.Answers a.value) :
    rule.foundBy as = [] ↔ ∀ a ∈ as, rule.Admits a.value := by
  simp only [foundBy, List.flatMap_eq_nil_iff, List.replicate_eq_nil_iff]
  exact forall₂_congr fun a member => count_eq_zero_iff (answers a member)

theorem severity_of_mem_foundBy {rule : Rule} {as : List Assignment} {f : Finding} (h : f ∈ rule.foundBy as) :
    f.severity = rule.severity := by
  obtain ⟨a, -, found⟩ := List.mem_flatMap.mp h
  rw [List.eq_of_mem_replicate found]
  rfl

theorem errors_found_eq_nil_iff {rules : List Rule} {as : List Assignment} (answered : answers rules as = .ok ()) :
    (found rules as).errors = [] ↔ ∀ rule ∈ rules, rule.severity = .error → ∀ a ∈ as, rule.Admits a.value := by
  have errors : (found rules as).errors = (rules.flatMap (foundBy · as)).filter (·.severity == .error) := rfl
  rw [answers_eq_ok] at answered
  rw [errors, List.filter_eq_nil_iff]
  constructor
  · intro none rule member severe
    rw [← foundBy_eq_nil_iff (answered rule member), List.eq_nil_iff_forall_not_mem]
    intro f found
    exact none f (List.mem_flatMap.mpr ⟨rule, member, found⟩) (by simp [severity_of_mem_foundBy found, severe])
  · intro admitted f found severe
    obtain ⟨rule, member, found⟩ := List.mem_flatMap.mp found
    rw [beq_iff_eq, severity_of_mem_foundBy found] at severe
    rw [(foundBy_eq_nil_iff (answered rule member)).mpr (admitted rule member severe)] at found
    cases found

end Rule

/-! ## The variables that are named -/

namespace Schema

theorem spec?_eq_none_iff {schema : Schema} {key : String} :
    schema.spec? key = none ↔ key ∉ schema.specs.map Prod.fst := by
  simp only [spec?, List.lookup_eq_none_iff, bne_iff_ne, List.mem_map, not_exists, not_and]
  exact forall₂_congr fun entry _ => ne_comm

theorem spec?_eq_some_iff {schema : Schema} (distinct : (schema.specs.map Prod.fst).Nodup) {key : String}
    {spec : VariableSpec} : schema.spec? key = some spec ↔ (key, spec) ∈ schema.specs := by
  rw [spec?, List.lookup_eq_some_iff]
  constructor
  · rintro ⟨before, after, shape, -⟩
    rw [shape]
    exact List.mem_append_right _ List.mem_cons_self
  · intro member
    obtain ⟨before, after, shape⟩ := List.append_of_mem member
    refine ⟨before, after, shape, fun entry earlier => bne_iff_ne.mpr fun same => ?_⟩
    rw [shape, List.map_append, List.nodup_append] at distinct
    exact distinct.2.2 entry.1 (List.mem_map_of_mem earlier) key (by simp) same.symm

def unknown (schema : Schema) (texts : List String) (observed : List Assignment) : List Assignment :=
  (observed.filter fun a => (schema.spec? a.key).isNone).filter fun a => !Assignment.isIgnored texts a.key

section
variable (schema : Schema) (texts : List String) (as : List Assignment)

theorem keys_unknown : (schema.unknown texts (Assignment.effective as)).map (·.key) =
    (as.map (·.key)).dedup.filter fun key =>
      decide (key ∉ schema.specs.map Prod.fst) && !Assignment.isIgnored texts key := by
  rw [← Assignment.keys_filter_effective, unknown, List.filter_filter]
  congr 2
  funext a
  rw [Bool.and_comm]
  congr 1
  rw [Bool.eq_iff_iff, Option.isNone_iff_eq_none, spec?_eq_none_iff, decide_eq_true_eq]

end

/-! ## Verdicts -/

/-- What a verdict on assignments says if it answers what a schema asks. Of equal keys `dedup` keeps the last one. -/
structure Decides (schema : Schema) (patterns : List String) (as : List Assignment) (v : Verdict) : Prop where
  missing : Finding.named .missingRequired v.findings.errors =
    (schema.specs.filter fun (key, spec) => spec.required && decide (key ∉ as.map (·.key))).map Prod.fst
  missing_once : (Finding.named .missingRequired v.findings.errors).Nodup
  undeclared : Finding.named .unusedVariable v.findings.warnings =
    (as.map (·.key)).dedup.filter fun key => decide (key ∉ schema.specs.map Prod.fst) &&
      !Assignment.isIgnored (schema.ignorePatterns.map (·.text) ++ patterns) key
  undeclared_once : (Finding.named .unusedVariable v.findings.warnings).Nodup
  isValid_iff : v.isValid = true ↔
    (∀ key spec, (key, spec) ∈ schema.specs → spec.required = true → key ∈ as.map (·.key)) ∧
    (∀ key spec a, (key, spec) ∈ schema.specs → Assignment.lookup? as key = some a → spec.Admits a.value) ∧
    (∀ rule ∈ schema.rules, rule.severity = .error →
      ∀ key a, Assignment.lookup? as key = some a → rule.Admits a.value)

section
variable (schema : Schema) (as : List Assignment)

theorem missingErrors_eq_nil_iff : schema.missingErrors (Assignment.effective as) = [] ↔
    ∀ key spec, (key, spec) ∈ schema.specs → spec.required = true → key ∈ as.map (·.key) := by
  simp only [missingErrors, List.map_eq_nil_iff, List.filter_eq_nil_iff, Prod.forall, Bool.and_eq_true, not_and,
    Bool.not_eq_true, Bool.not_eq_false', Assignment.assigns_effective, Assignment.assigns_iff]

theorem valueErrors_eq_nil_iff (distinct : (schema.specs.map Prod.fst).Nodup) :
    ((schema.declared (Assignment.effective as)).flatMap fun entry => entry.2.valueErrors entry.1) = [] ↔
      ∀ key spec a, (key, spec) ∈ schema.specs → Assignment.lookup? as key = some a → spec.Admits a.value := by
  simp only [List.flatMap_eq_nil_iff, Prod.forall, mem_declared, VariableSpec.valueErrors_eq_nil_iff]
  constructor
  · intro admitted key spec a member found
    obtain ⟨wins, rfl⟩ := Assignment.mem_effective_of_lookup? found
    exact admitted a spec ⟨wins, (spec?_eq_some_iff distinct).mpr member⟩
  · rintro admitted a spec ⟨wins, specified⟩
    exact admitted a.key spec a ((spec?_eq_some_iff distinct).mp specified)
      (Assignment.mem_effective_iff_lookup?.mp wins)

def answer (texts : List String) : Verdict :=
  let observed := Assignment.effective as
  let found := schema.allFindings observed (schema.unknown texts observed)
  .ofFindings found (schema.summary observed found)

theorem audit_cases (patterns : List String) :
    (schema.audit patterns as = .ok (schema.answer as (schema.ignorePatterns.map (·.text) ++ patterns)) ∧
      Rule.answers schema.rules (Assignment.effective as) = .ok ()) ∨
    (∃ e, schema.audit patterns as = .error (.pattern e) ∧ ∃ text ∈ patterns, Pattern.compile text = .error e) ∨
    ∃ complaint, schema.audit patterns as = .error (.raised complaint) ∧
      Rule.Complain schema.rules (Assignment.effective as) complaint := by
  unfold audit
  rcases Assignment.notIgnored_cases (schema.ignorePatterns.map (·.text) ++ patterns)
    ((Assignment.effective as).filter fun a => (schema.spec? a.key).isNone) with read | ⟨e, failed, text, member, flawed⟩
  · simp only [read, Rule.applyAll_eq]
    obtain answers | ⟨complaint, complains, raises⟩ :=
      Rule.answers_cases schema.rules (Assignment.effective as)
    · rw [answers]
      exact .inl ⟨rfl, rfl⟩
    · rw [raises]
      exact .inr (.inr ⟨complaint, rfl, complains⟩)
  · simp only [failed]
    rcases List.mem_append.mp member with own | given
    · obtain ⟨p, -, rfl⟩ := List.mem_map.mp own
      rw [Pattern.compile_text] at flawed
      cases flawed
    · exact .inr (.inl ⟨e, rfl, text, given, flawed⟩)

section
variable (distinct : (schema.specs.map Prod.fst).Nodup)
  (answered : Rule.answers schema.rules (Assignment.effective as) = .ok ())
include distinct answered

theorem isValid_answer_iff (texts : List String) :
    (schema.answer as texts).isValid = true ↔
      (∀ key spec, (key, spec) ∈ schema.specs → spec.required = true → key ∈ as.map (·.key)) ∧
      (∀ key spec a, (key, spec) ∈ schema.specs → Assignment.lookup? as key = some a → spec.Admits a.value) ∧
      (∀ rule ∈ schema.rules, rule.severity = .error →
        ∀ key a, Assignment.lookup? as key = some a → rule.Admits a.value) := by
  have errors : (schema.answer as texts).isValid =
      (schema.missingErrors (Assignment.effective as) ++
        ((schema.declared (Assignment.effective as)).flatMap fun entry => entry.2.valueErrors entry.1) ++
          (Rule.found schema.rules (Assignment.effective as)).errors).isEmpty := rfl
  rw [errors, List.isEmpty_iff, List.append_eq_nil_iff, List.append_eq_nil_iff, missingErrors_eq_nil_iff,
    valueErrors_eq_nil_iff schema as distinct, Rule.errors_found_eq_nil_iff answered, and_assoc]
  simp only [Assignment.forall_mem_effective_iff]

theorem decides_answer (patterns : List String) :
    schema.Decides patterns as (schema.answer as (schema.ignorePatterns.map (·.text) ++ patterns)) := by
  have missing := schema.named_missing (Assignment.effective as)
    (schema.unknown (schema.ignorePatterns.map (·.text) ++ patterns) (Assignment.effective as))
  have undeclared := schema.named_undeclared (Assignment.effective as)
    (schema.unknown (schema.ignorePatterns.map (·.text) ++ patterns) (Assignment.effective as))
  simp only [Assignment.assigns_effective] at missing
  simp only [← Assignment.decide_mem_keys, ← decide_not] at missing
  rw [keys_unknown] at undeclared
  constructor
  case missing => exact missing
  case missing_once => exact missing ▸ distinct.sublist (List.filter_sublist.map Prod.fst)
  case undeclared => exact undeclared
  case undeclared_once => exact undeclared ▸ (List.nodup_dedup _).sublist List.filter_sublist
  case isValid_iff => exact schema.isValid_answer_iff as distinct answered _

end

end

/-- An audit against a schema answers what the schema asks, unless one of the given texts is no pattern or a check
raises something. -/
theorem audit_decides (schema : Schema) (patterns : List String) (as : List Assignment)
    (distinct : (schema.specs.map Prod.fst).Nodup) :
    (∃ v, schema.audit patterns as = .ok v ∧ schema.Decides patterns as v) ∨
    (∃ e, schema.audit patterns as = .error (.pattern e) ∧ ∃ text ∈ patterns, Pattern.compile text = .error e) ∨
    ∃ complaint, schema.audit patterns as = .error (.raised complaint) ∧
      Rule.Complain schema.rules (Assignment.effective as) complaint :=
  (schema.audit_cases as patterns).imp_left fun answered =>
    ⟨_, answered.1, schema.decides_answer as distinct answered.2 patterns⟩

end Schema

end

attribute [local instance] Host.shipped in
theorem Schema.audit_decides_port :
    let schema : Schema :=
      { specs := [("TOKEN", { required := true }), ("PORT", { type := some .number })]
        rules := [{ name := "switch", description := "is no switch", severity := .error
                    predicate := some (.ofTest Value.isBoolean) }] }
    let as : List Assignment :=
      [{ key := "PORT", value := "80", line := 1 }, { key := "TMP_DIR", value := "", line := 2 },
        { key := "HOST", value := "yes", line := 3 }, { key := "PORT", value := "true", line := 4 }]
    (schema.specs.map Prod.fst).Nodup ∧
      ∃ v, schema.audit ["^TMP_"] as = .ok v ∧ schema.Decides ["^TMP_"] as v := by
  intro schema as
  have distinct : (schema.specs.map Prod.fst).Nodup := by decide
  obtain ⟨p, read⟩ : ∃ p, Pattern.compile "^TMP_" = .ok p := ⟨_, rfl⟩
  have made : ∃ v, schema.audit [p.text] as = .ok v := ⟨_, (schema.audit_texts [p] as).trans rfl⟩
  rw [Pattern.text_of_compile read] at made
  obtain ⟨v, made⟩ := made
  rcases audit_decides schema ["^TMP_"] as distinct with decided | ⟨_, failed, -⟩ | ⟨_, failed, -⟩
  · exact ⟨distinct, decided⟩
  · rw [made] at failed
    cases failed
  · rw [made] at failed
    cases failed

end EnvAudit
