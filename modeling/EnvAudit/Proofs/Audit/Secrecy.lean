import EnvAudit.Catalogue
import EnvAudit.Proofs.Audit.Basis
import EnvAudit.Proofs.EnvFile.Winners
import Mathlib.Data.List.Forall2

/-!
# Secrecy of values

An audit looks at values through tests only, and no finding holds more of a value than how it answered them. Two
files that agree in keys and lines, and whose values answer every test alike, therefore get the same verdict, down
to the texts of the findings. Main statement: `audit_of_indistinguishable`.
-/

namespace EnvAudit
open List (Forall₂)

/-! ## Lists that are related item by item -/

section
variable {α β : Type} {R : α → α → Prop} {as bs : List α}

theorem map_eq_of_forall₂ {f : α → β} (related : Forall₂ R as bs) (same : ∀ a b, R a b → f a = f b) :
    as.map f = bs.map f := by
  induction related with
  | nil => rfl
  | cons first _ ih => rw [List.map_cons, List.map_cons, same _ _ first, ih]

theorem flatMap_eq_of_forall₂ {f : α → List β} (related : Forall₂ R as bs)
    (same : ∀ a b, R a b → f a = f b) : as.flatMap f = bs.flatMap f := by
  rw [List.flatMap_def, List.flatMap_def, map_eq_of_forall₂ related same]

theorem filterMap_eq_of_forall₂ {f : α → Option β} (related : Forall₂ R as bs)
    (same : ∀ a b, R a b → f a = f b) : as.filterMap f = bs.filterMap f := by
  induction related with
  | nil => rfl
  | cons first _ ih => rw [List.filterMap_cons, List.filterMap_cons, same _ _ first, ih]

theorem filter_of_forall₂ {p : α → Bool} (related : Forall₂ R as bs) (same : ∀ a b, R a b → p a = p b) :
    Forall₂ R (as.filter p) (bs.filter p) := by
  refine List.rel_filter (fun a b r => ?_) related
  show p a = true ↔ p b = true
  rw [same a b r]

theorem find?_eq_of_forall₂ {p : α → Bool} {f : α → β} (related : Forall₂ R as bs)
    (test : ∀ a b, R a b → p a = p b) (same : ∀ a b, R a b → f a = f b) :
    (as.find? p).map f = (bs.find? p).map f := by
  induction related with
  | nil => rfl
  | cons first _ ih =>
      rw [List.find?_cons, List.find?_cons, test _ _ first]
      split
      · rw [Option.map_some, Option.map_some, same _ _ first]
      · exact ih

end

/-! ## Assignments that agree in their keys -/

namespace Assignment

section
variable {R : Assignment → Assignment → Prop} {as bs : List Assignment}
  (related : Forall₂ R as bs) (keys : ∀ a b, R a b → a.key = b.key)
include related keys

theorem effective_of_forall₂ : Forall₂ R (effective as) (effective bs) := by
  refine List.rel_foldl (P := Forall₂ R) (fun kept kept' kepts a b r => ?_) .nil related
  refine List.rel_append (List.rel_filter (fun c d s => ?_) kepts) (.cons r .nil)
  rw [keys a b r]
  show (c.key != b.key) = true ↔ (d.key != b.key) = true
  rw [keys c d s]

theorem assigns_of_forall₂ : assigns as = assigns bs := by
  funext key
  have same := map_eq_of_forall₂ related keys
  have byKeys (cs : List Assignment) : assigns cs key = (cs.map (·.key)).any (· == key) := by
    rw [assigns, List.any_map]
    rfl
  rw [byKeys, byKeys, same]

theorem repeatedKeys_of_forall₂ : repeatedKeys as = repeatedKeys bs := by
  refine congrArg Prod.snd (List.rel_foldl (P := Eq) (fun state state' same a b r => ?_) rfl related)
  subst same
  rw [keys a b r]

theorem lookup?_of_forall₂ {β : Type} {f : Assignment → β} (same : ∀ a b, R a b → f a = f b) (key : String) :
    (lookup? as key).map f = (lookup? bs key).map f :=
  find?_eq_of_forall₂ (List.rel_reverse related) (fun a b r => by rw [keys a b r]) same

end

end Assignment

/-! ## What is asked of values -/

section
variable [Host]

namespace Value

/-- Two values that the tests of values, whoever uses them, do not tell apart. -/
structure Alike (v w : String) : Prop where
  blank : Text.isBlankText v = Text.isBlankText w
  number : isNumber v = isNumber w
  boolean : isBoolean v = isBoolean w
  url : isUrl v = isUrl w
  email : isEmail v = isEmail w
  json : isJson v = isJson w
  placeholder : isPlaceholder v = isPlaceholder w
  credentials : holdsCredentials v = holdsCredentials w
  secretShape : secretShape? v = secretShape? w
  weakSecret : isWeakSecret v = isWeakSecret w
  signs : ∀ sign ∈ Security.signs, sign.pattern.search v = sign.pattern.search w
  sensitiveData : ∀ data ∈ Security.sensitiveData, data.1.search v = data.1.search w

end Value

namespace Auditor

def comparedSchema? (auditor : Auditor) (w : Workspace) : Option Schema :=
  match auditor.mode with
  | .schema | .both => (auditor.loadSchema w).toOption
  | .example | .unsupported _ => none

def valueRules (auditor : Auditor) (w : Workspace) : List Rule :=
  auditor.config.customRules ++ ((auditor.comparedSchema? w).map (·.rules)).getD []

/-- Two assignments of one key on one line, whose values answer all tests alike that an audit makes of them. -/
structure Indistinguishable (auditor : Auditor) (w : Workspace) (a b : Assignment) : Prop where
  key : a.key = b.key
  line : a.line = b.line
  alike : Value.Alike a.value b.value
  declared : ∀ schema spec pattern, auditor.comparedSchema? w = some schema →
    schema.spec? a.key = some spec → spec.pattern = some pattern →
      pattern.search a.value = pattern.search b.value
  matched : ∀ rule ∈ auditor.valueRules w, ∀ pattern, rule.pattern = some pattern →
    pattern.search a.value = pattern.search b.value
  checked : ∀ rule ∈ auditor.valueRules w, ∀ predicate, rule.predicate = some predicate →
    predicate a.value = predicate b.value
  screened : ∀ rules, auditor.securityRules w = .ok rules → ∀ rule ∈ Security.builtinRules ++ rules,
    rule.pattern.search a.text = rule.pattern.search b.text

end Auditor

/-! ## Findings on one assignment -/

namespace Rule

section
variable {rule : Rule} {v w : String}
  (checked : ∀ predicate, rule.predicate = some predicate → predicate v = predicate w)
include checked

theorem complaint?_congr : rule.complaint? v = rule.complaint? w := by
  unfold complaint?
  cases given : rule.predicate with
  | none => rfl
  | some predicate => rw [Option.bind_some, Option.bind_some, checked predicate given]

theorem count_congr (matched : ∀ pattern, rule.pattern = some pattern → pattern.search v = pattern.search w) :
    rule.count v = rule.count w := by
  have patterns : rule.pattern.any (!·.search v) = rule.pattern.any (!·.search w) := by
    cases given : rule.pattern with
    | none => rfl
    | some pattern => rw [Option.any_some, Option.any_some, matched pattern given]
  unfold count
  rw [patterns]
  cases given : rule.predicate with
  | none => rfl
  | some predicate => rw [Option.any_some, Option.any_some, checked predicate given]

end

end Rule

section
variable {a b : Assignment} (key : a.key = b.key) (line : a.line = b.line)
include key line

theorem Rule.finding_congr (rule : Rule) : rule.finding a = rule.finding b := by
  rw [finding, key, line, finding]

namespace VariableSpec

theorem deprecationWarnings_congr (spec : VariableSpec) :
    spec.deprecationWarnings a = spec.deprecationWarnings b := by
  rw [deprecationWarnings, key, line, deprecationWarnings]

theorem valueErrors_congr {spec : VariableSpec} (alike : Value.Alike a.value b.value)
    (matched : ∀ pattern, spec.pattern = some pattern → pattern.search a.value = pattern.search b.value) :
    spec.valueErrors a = spec.valueErrors b := by
  have error (complaint : String) : spec.formatError a complaint = spec.formatError b complaint := by
    rw [formatError, key, line, formatError]
  have types : spec.typeErrors a = spec.typeErrors b := by
    unfold typeErrors
    split
    · rename_i holds expected given
      obtain ⟨type, -, check⟩ := Option.bind_eq_some_iff.mp given
      have same : holds a.value = holds b.value := by
        cases type <;> simp only [ValueType.check?, reduceCtorEq, Option.some.injEq, Prod.mk.injEq] at check <;>
          obtain ⟨rfl, -⟩ := check
        · exact alike.number
        · exact alike.boolean
        · exact alike.url
        · exact alike.email
        · exact alike.json
      rw [same, error]
    · rfl
  have patterns : spec.patternErrors a = spec.patternErrors b := by
    unfold patternErrors
    cases given : spec.pattern with
    | none => rfl
    | some pattern => rw [Option.any_some, Option.any_some, matched pattern given, error]
  rw [valueErrors, alike.blank, types, patterns, error, valueErrors]

end VariableSpec

omit [Host] in
theorem Reference.compare_congr (alike : Value.Alike a.value b.value) (sample : Assignment) :
    compare a sample = compare b sample := by
  have shape : shapeWarning a sample = shapeWarning b sample := by
    funext shape
    rw [shapeWarning, key, line, shapeWarning]
  have empty : emptyWarning a sample = emptyWarning b sample := by
    rw [emptyWarning, key, line, emptyWarning]
  have first : (shapes.find? fun shape => shape.holds sample.value && !shape.holds a.value) =
      shapes.find? fun shape => shape.holds sample.value && !shape.holds b.value := by
    simp only [shapes, List.find?_cons, List.find?_nil, alike.url, alike.number, alike.boolean, alike.email]
  rw [compare, alike.blank, empty, shape, first, compare]

theorem Security.check_congr {rules : List SecurityRule} (alike : Value.Alike a.value b.value)
    (screened : ∀ rule ∈ rules, rule.pattern.search a.text = rule.pattern.search b.text) :
    check rules a = check rules b := by
  have warned (kind : FindingKind) : warning kind a = warning kind b := by
    funext message suggestion
    rw [warning, key, line, warning]
  have noted : note a = note b := by
    funext message
    rw [note, key, line, note]
  have ruled : checkRules rules a = checkRules rules b := by
    have finding (rule : SecurityRule) : ruleFinding rule a = ruleFinding rule b := by
      rw [ruleFinding, noted, key, line, ruleFinding]
    rw [checkRules, List.filter_congr screened]
    exact List.map_congr_left fun rule _ => finding rule
  have secret : checkSecret a = checkSecret b := by
    have weak : weakSecretError a = weakSecretError b := by
      rw [weakSecretError, key, line, weakSecretError]
    have shaped : secretShapeWarning a = secretShapeWarning b := by
      funext shape
      rw [secretShapeWarning, warned, secretShapeWarning]
    rw [checkSecret, key, alike.secretShape, alike.weakSecret, weak, shaped, checkSecret]
  have signed : checkSigns a = checkSigns b := by
    have finding : signFinding a = signFinding b := by
      funext sign
      rw [signFinding, noted, warned, signFinding]
    rw [checkSigns, List.filter_congr alike.signs, finding, key, alike.placeholder, warned, checkSigns]
  have exposed : checkData a = checkData b := by
    unfold checkData
    rw [List.filter_congr alike.sensitiveData, alike.credentials, warned]
  rw [check, ruled, secret, signed, exposed, check]

end

/-! ## Findings on all assignments -/

section
variable {R : Assignment → Assignment → Prop} {as bs : List Assignment}

theorem Rule.found_congr {rules : List Rule} (related : Forall₂ R as bs)
    (findings : ∀ a b, R a b → ∀ rule ∈ rules,
      rule.finding a = rule.finding b ∧ rule.count a.value = rule.count b.value) :
    found rules as = found rules bs := by
  have each (rule : Rule) (member : rule ∈ rules) : rule.foundBy as = rule.foundBy bs := by
    refine flatMap_eq_of_forall₂ related fun a b r => ?_
    obtain ⟨finding, count⟩ := findings a b r rule member
    rw [finding, count]
  rw [found, List.flatMap_congr each, found]

theorem Rule.answers_congr {rules : List Rule} (related : Forall₂ R as bs)
    (complaints : ∀ a b, R a b → ∀ rule ∈ rules, rule.complaint? a.value = rule.complaint? b.value) :
    answers rules as = answers rules bs := by
  have each (rule : Rule) (member : rule ∈ rules) :
      (as.map fun a => rule.complaint? a.value) = bs.map fun b => rule.complaint? b.value :=
    map_eq_of_forall₂ related fun a b r => complaints a b r rule member
  have first : firstComplaint? rules as = firstComplaint? rules bs := by
    clear related complaints
    unfold firstComplaint?
    induction rules with
    | nil => rfl
    | cons rule rules ih =>
        have own := congrArg (List.findSome? id) (each rule List.mem_cons_self)
        simp only [List.findSome?_map, Function.comp_def, id] at own
        rw [List.findSome?_cons, List.findSome?_cons, own, ih fun r member => each r (List.mem_cons_of_mem _ member)]
  rw [answers, first, answers]

theorem Security.analyze_congr {rules : List SecurityRule} (related : Forall₂ R as bs)
    (checks : ∀ a b, R a b → check (builtinRules ++ rules) a = check (builtinRules ++ rules) b) :
    analyze rules as = analyze rules bs := by
  rw [analyze, flatMap_eq_of_forall₂ related checks, analyze]

end

namespace Auditor

section
variable {auditor : Auditor} {w : Workspace} {as bs : List Assignment}
  (same : Forall₂ (auditor.Indistinguishable w) as bs)
include same

theorem effective_of_indistinguishable :
    Forall₂ (auditor.Indistinguishable w) (Assignment.effective as) (Assignment.effective bs) :=
  Assignment.effective_of_forall₂ same fun _ _ r => r.key

theorem found_of_indistinguishable {rules : List Rule} (applied : rules ⊆ auditor.valueRules w) :
    Rule.found rules as = Rule.found rules bs :=
  Rule.found_congr same fun _ _ r rule member =>
    ⟨Rule.finding_congr r.key r.line rule,
      Rule.count_congr (r.checked rule (applied member)) (r.matched rule (applied member))⟩

theorem answers_of_indistinguishable {rules : List Rule} (applied : rules ⊆ auditor.valueRules w) :
    Rule.answers rules as = Rule.answers rules bs :=
  Rule.answers_congr same fun _ _ r rule member => Rule.complaint?_congr (r.checked rule (applied member))

theorem repeatedNotes_of_indistinguishable {file file' : EnvFile} (first : file.assignments = as)
    (second : file'.assignments = bs) : repeatedNotes file = repeatedNotes file' := by
  have note (a b : Assignment) (r : auditor.Indistinguishable w a b) : repeatedNote a = repeatedNote b := by
    rw [repeatedNote, r.key, r.line, repeatedNote]
  have winners := Assignment.lookup?_of_forall₂ same (fun _ _ r => r.key) note
  rw [repeatedNotes, repeatedNotes, List.map_filterMap, List.map_filterMap, EnvFile.repeatedKeys,
    EnvFile.repeatedKeys, first, second, Assignment.repeatedKeys_of_forall₂ same fun _ _ r => r.key]
  refine List.filterMap_congr fun key _ => ?_
  rw [EnvFile.lookup?, EnvFile.lookup?, first, second, winners]

/-! ### Comparison with a schema -/

theorem declared_of_indistinguishable (schema : Schema) :
    Forall₂ (fun p q => auditor.Indistinguishable w p.1 q.1 ∧ p.2 = q.2 ∧ schema.spec? p.1.key = some p.2)
      (schema.declared as) (schema.declared bs) := by
  refine List.rel_filterMap (fun a b r => ?_) same
  rw [← r.key]
  cases found : schema.spec? a.key with
  | none => exact .none
  | some spec => exact .some ⟨r, rfl, found⟩

theorem schemaFindings_of_indistinguishable {schema : Schema} (compared : auditor.comparedSchema? w = some schema)
    {undeclared undeclared' : List Assignment}
    (others : Forall₂ (auditor.Indistinguishable w) undeclared undeclared') :
    schema.findings as undeclared = schema.findings bs undeclared' := by
  have missing : schema.missingErrors as = schema.missingErrors bs := by
    rw [Schema.missingErrors, Assignment.assigns_of_forall₂ same fun _ _ r => r.key, Schema.missingErrors]
  have unknown : undeclared.map Schema.undeclaredWarning = undeclared'.map Schema.undeclaredWarning :=
    map_eq_of_forall₂ others fun a b r => by
      rw [Schema.undeclaredWarning, r.key, r.line, Schema.undeclaredWarning]
  have declared := declared_of_indistinguishable same schema
  have errors : ((schema.declared as).flatMap fun entry => entry.2.valueErrors entry.1) =
      (schema.declared bs).flatMap fun entry => entry.2.valueErrors entry.1 := by
    refine flatMap_eq_of_forall₂ declared ?_
    rintro ⟨a, spec⟩ ⟨b, _⟩ ⟨r, rfl, found⟩
    exact VariableSpec.valueErrors_congr r.key r.line r.alike fun pattern =>
      r.declared schema spec pattern compared found
  have warnings : ((schema.declared as).flatMap fun entry => entry.2.deprecationWarnings entry.1) =
      (schema.declared bs).flatMap fun entry => entry.2.deprecationWarnings entry.1 := by
    refine flatMap_eq_of_forall₂ declared ?_
    rintro ⟨a, spec⟩ ⟨b, _⟩ ⟨r, rfl, -⟩
    exact VariableSpec.deprecationWarnings_congr r.key r.line spec
  simp only [Schema.findings, missing, unknown, errors, warnings]

theorem againstSchema_of_indistinguishable {schema : Schema}
    (compared : auditor.comparedSchema? w = some schema) :
    auditor.againstSchema schema as = auditor.againstSchema schema bs := by
  have observed := effective_of_indistinguishable same
  have undeclared := filter_of_forall₂ (p := fun a => (schema.spec? a.key).isNone) observed
    fun _ _ r => by rw [r.key]
  have others := filter_of_forall₂
    (p := fun a => !(schema.ignorePatterns ++ auditor.config.ignorePatterns).any (·.search a.key)) undeclared
    fun _ _ r => by rw [r.key]
  have found := schemaFindings_of_indistinguishable observed compared others
  have applied : schema.rules ⊆ auditor.valueRules w := by
    rw [valueRules, compared]
    exact List.subset_append_right _ _
  simp only [againstSchema_eq, answers_of_indistinguishable observed applied, Schema.verdict, Schema.allFindings,
    Schema.undeclared, Assignment.unmatched, found, found_of_indistinguishable observed applied, Schema.summary,
    observed.length_eq]

/-! ### Comparison with a reference -/

theorem referenceFindings_of_indistinguishable (reference missing : List Assignment)
    {extra extra' : List Assignment} (others : Forall₂ (auditor.Indistinguishable w) extra extra') :
    Reference.findings reference as missing extra = Reference.findings reference bs missing extra' := by
  have pairs : Forall₂ (fun p q => auditor.Indistinguishable w p.1 q.1 ∧ p.2 = q.2)
      (Reference.paired reference as) (Reference.paired reference bs) := by
    refine List.rel_filterMap (fun a b r => ?_) same
    rw [← r.key]
    cases Assignment.lookup? reference a.key with
    | none => exact .none
    | some sample => exact .some ⟨r, rfl⟩
  have unknown : extra.map Reference.extraWarning = extra'.map Reference.extraWarning :=
    map_eq_of_forall₂ others fun a b r => by
      rw [Reference.extraWarning, r.key, r.line, Reference.extraWarning]
  have compared : ((Reference.paired reference as).filterMap fun pair => Reference.compare pair.1 pair.2) =
      (Reference.paired reference bs).filterMap fun pair => Reference.compare pair.1 pair.2 := by
    refine filterMap_eq_of_forall₂ pairs ?_
    rintro ⟨a, sample⟩ ⟨b, _⟩ ⟨r, rfl⟩
    exact Reference.compare_congr r.key r.line r.alike sample
  have standIns : (((Reference.paired reference as).filter fun pair => Value.isPlaceholder pair.2.value).map
      fun pair => Reference.standInNote pair.1 pair.2) =
      ((Reference.paired reference bs).filter fun pair => Value.isPlaceholder pair.2.value).map
        fun pair => Reference.standInNote pair.1 pair.2 := by
    have kept := filter_of_forall₂ (p := fun pair => Value.isPlaceholder pair.2.value) pairs
      fun _ _ r => by rw [r.2]
    refine map_eq_of_forall₂ kept ?_
    rintro ⟨a, sample⟩ ⟨b, _⟩ ⟨r, rfl⟩
    show Reference.standInNote a sample = Reference.standInNote b sample
    rw [Reference.standInNote, r.key, r.line, Reference.standInNote]
  simp only [Reference.findings, unknown, compared, standIns]

theorem againstSamples_of_indistinguishable : auditor.againstSamples w as = auditor.againstSamples w bs := by
  have observed := effective_of_indistinguishable same
  have assigned := Assignment.assigns_of_forall₂ observed fun _ _ r => r.key
  unfold againstSamples Reference.audit ignoreTexts
  refine congrArg (auditor.loadSamples w >>= ·) (funext fun samples => ?_)
  have undeclared := filter_of_forall₂
    (p := fun a => !Assignment.assigns (Assignment.effective samples) a.key) observed fun _ _ r => by rw [r.key]
  have others := filter_of_forall₂
    (p := fun a => !auditor.config.ignorePatterns.any (·.search a.key)) undeclared fun _ _ r => by rw [r.key]
  have found := referenceFindings_of_indistinguishable observed (Assignment.effective samples)
  simp only [Assignment.notIgnored_texts, bind, Except.bind, Reference.summary, observed.length_eq, assigned,
    found _ others]

/-! ### The audit -/

theorem compare_of_indistinguishable : auditor.compare w as = auditor.compare w bs := by
  have schema (mode : auditor.mode = .schema ∨ auditor.mode = .both) (s : Schema)
      (loaded : auditor.loadSchema w = .ok s) : auditor.againstSchema s as = auditor.againstSchema s bs := by
    refine againstSchema_of_indistinguishable same ?_
    rcases mode with mode | mode <;> rw [comparedSchema?, mode, loaded] <;> rfl
  have samples := againstSamples_of_indistinguishable same
  unfold compare
  split <;> rename_i mode
  · cases loaded : auditor.loadSchema w with
    | error failure => rfl
    | ok s => simp only [bind, Except.bind, schema (.inl mode) s loaded]
  · rw [samples]
  · cases loaded : auditor.loadSchema w with
    | error failure => rfl
    | ok s => simp only [bind, Except.bind, schema (.inr mode) s loaded, samples]
  · rfl

end

/-- Values that no test tells apart leave no difference in the verdict. -/
theorem audit_of_indistinguishable (auditor : Auditor) (w : Workspace) (file file' : EnvFile)
    (wellFormed : file.malformed = []) (wellFormed' : file'.malformed = [])
    (same : Forall₂ (auditor.Indistinguishable w) file.assignments file'.assignments) :
    auditor.audit w file = auditor.audit w file' := by
  rw [auditor.audit_of_wellFormed wellFormed, auditor.audit_of_wellFormed wellFormed',
    compare_of_indistinguishable same]
  cases made : auditor.compare w file'.assignments with
  | error failure => rfl
  | ok compared =>
      -- The rules that the comparison hands on are those of the schema, whatever the values were.
      have rules := auditor.securityRules_of_compare made
      have screened : Security.analyze (auditor.config.securityRules ++ compared.2) file.assignments =
          Security.analyze (auditor.config.securityRules ++ compared.2) file'.assignments :=
        Security.analyze_congr same fun _ _ r => Security.check_congr r.key r.line r.alike (r.screened _ rules)
      have applied : auditor.config.customRules ⊆ auditor.valueRules w := List.subset_append_left _ _
      have observed := effective_of_indistinguishable same
      have ruled := found_of_indistinguishable observed applied
      have answers := answers_of_indistinguishable observed applied
      have notes := repeatedNotes_of_indistinguishable same rfl rfl
      show auditor.conclude file compared = auditor.conclude file' compared
      simp only [conclude_eq, concluded, afterwards, securityIssues, EnvFile.effective, answers, ruled, notes, screened]

end Auditor

end

attribute [local instance] Host.shipped in
theorem Auditor.audit_of_indistinguishable_secrets :
    let spec : VariableSpec := { required := true, pattern := some (.ofText "^[a-z ]+$") }
    let rule : Rule :=
      { name := "long", description := "Too short", severity := .warning, pattern := some (.ofText ".\x7b9\x7d")
        predicate := some (.ofTest Value.isWeakSecret) }
    let schema : Schema := { specs := [("API_KEY", spec)], rules := [rule] }
    let auditor : Auditor := { config := {}, schema := some schema }
    let file : EnvFile := { assignments := [{ key := "API_KEY", value := "correct horse", line := 3 }] }
    let file' : EnvFile :=
      { assignments := [{ key := "API_KEY", value := "battery staple", line := 3, isQuoted := true }]
        comments := ["keys"] }
    file.malformed = [] ∧ file'.malformed = [] ∧
      Forall₂ (auditor.Indistinguishable default) file.assignments file'.assignments ∧
      auditor.audit default file = auditor.audit default file' := by
  intro spec rule schema auditor file file'
  have compared (s : Schema) (h : auditor.comparedSchema? default = some s) : s = schema :=
    (Option.some.inj h).symm
  have same : Forall₂ (auditor.Indistinguishable default) file.assignments file'.assignments := by
    refine .cons ?_ .nil
    constructor
    case key => rfl
    case line => rfl
    case alike => constructor <;> decide +kernel
    case declared =>
      intro s spec' pattern loaded found given
      rw [compared s loaded] at found
      obtain rfl : spec' = spec := by simpa [schema, Schema.spec?] using found.symm
      obtain rfl := Option.some.inj given
      decide +kernel
    case matched =>
      intro r member pattern given
      obtain rfl : r = rule := List.mem_singleton.mp member
      obtain rfl := Option.some.inj given
      decide +kernel
    case checked =>
      intro r member predicate given
      obtain rfl : r = rule := List.mem_singleton.mp member
      obtain rfl := Option.some.inj given
      decide +kernel
    case screened =>
      intro rules loaded
      obtain rfl : rules = [] := (Except.ok.inj loaded).symm
      decide +kernel
  exact ⟨rfl, rfl, same, audit_of_indistinguishable auditor default file file' rfl rfl same⟩

end EnvAudit
