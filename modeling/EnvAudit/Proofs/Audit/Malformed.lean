import EnvAudit.Catalogue
import EnvAudit.Proofs.Audit.Places
import EnvAudit.Proofs.EnvFile.Naming

namespace EnvAudit
open Text

/-! ## The lines -/

/-- A line that is neither blank nor a comment, and does not start as an assignment does. -/
def Line.IsMalformed (raw : List Char) : Prop :=
  trim raw ≠ [] ∧ (trim raw).head? ≠ some '#' ∧ ¬ StartsAssignment (trim raw)

instance : DecidablePred Line.IsMalformed := fun raw =>
  inferInstanceAs (Decidable (trim raw ≠ [] ∧ (trim raw).head? ≠ some '#' ∧ ¬ StartsAssignment (trim raw)))

theorem Line.malformed?_read {raw : List Char} (clean : '\n' ∉ raw) (n : Int) :
    (read raw).malformed? n = if IsMalformed raw then some ⟨n, String.ofList (trim raw)⟩ else none := by
  have kind_iff : (read raw).kind = .malformed ↔ IsMalformed raw := (kind_read clean).2.2.2
  split
  next malformed =>
    have kind := kind_iff.mpr malformed
    rw [read_of_solid malformed.1 malformed.2.1, readAssignment] at kind ⊢
    cases split : splitAssignment? (trim raw) with
    | none => rfl
    | some pair => rw [split] at kind; cases kind
  next other =>
    cases line : read raw with
    | malformed text => exact absurd (kind_iff.mp (by rw [line]; rfl)) other
    | blank | comment | assignment => rfl

theorem EnvFile.malformed_parse {content : String} {lines : List (List Char)} (has : HasLines content.toList lines) :
    (parse content).malformed = ((lines.zipIdx 1).filter fun (raw, _) => Line.IsMalformed raw).map
      fun (raw, n) => ⟨n, String.ofList (trim raw)⟩ := by
  have numbered : (parse content).malformed =
      (lines.zipIdx 1).filterMap fun (raw, n) => (Line.read raw).malformed? n := by
    rw [parse_of_hasLines has, ofLines, List.zipIdx_map]
    simp only [List.filterMap_map]
    rfl
  rw [numbered, ← List.filterMap_eq_map, List.filterMap_filter]
  apply List.filterMap_congr
  rintro ⟨raw, n⟩ member
  have clean := has.not_mem raw (List.fst_mem_of_mem_zipIdx member)
  simp only [Line.malformed?_read clean, decide_eq_true_eq, Function.comp_apply]

theorem EnvFile.malformed_parse_eq_nil_iff {content : String} {lines : List (List Char)}
    (has : HasLines content.toList lines) :
    (parse content).malformed = [] ↔ ∀ raw ∈ lines, ¬ Line.IsMalformed raw := by
  rw [malformed_parse has, List.map_eq_nil_iff, List.filter_eq_nil_iff]
  constructor
  · intro none raw member malformed
    obtain ⟨n, numbered⟩ : ∃ n, (raw, n) ∈ lines.zipIdx 1 := by
      rw [← List.zipIdx_map_fst 1 lines] at member
      obtain ⟨⟨_, n⟩, numbered, rfl⟩ := List.mem_map.mp member
      exact ⟨n, numbered⟩
    exact none _ numbered (decide_eq_true malformed)
  · intro none numbered member malformed
    exact none _ (List.fst_mem_of_mem_zipIdx member) (of_decide_eq_true malformed)

/-- The verdict that is passed on malformed lines: an error for each of them, in their order, and nothing else. -/
def Verdict.refusal (lines : List (List Char)) : Verdict where
  isValid := false
  findings :=
    { errors := ((lines.zipIdx 1).filter fun (raw, _) => Line.IsMalformed raw).map fun (raw, n) =>
        { kind := .invalidFormat
          variableName := ""
          message := "Invalid variable assignment format: " ++ String.ofList (trim raw)
          line := some n
          suggestion := none
          severity := .error }
      warnings := []
      info := [] }
  summary :=
    { assigned := 0, required := 0, missing := 0, unused := 0, securityIssues := 0, elapsed := .zero }

theorem Verdict.ofMalformed_parse {content : String} {lines : List (List Char)}
    (has : HasLines content.toList lines) (malformed : (EnvFile.parse content).malformed ≠ []) :
    ofMalformed (EnvFile.parse content).malformed .zero = refusal lines := by
  have errors : (EnvFile.parse content).malformed.map malformedFinding = (refusal lines).findings.errors := by
    rw [EnvFile.malformed_parse has, List.map_map]
    rfl
  have invalid : (refusal lines).findings.errors.isEmpty = false := by
    rw [← errors, List.isEmpty_map]
    simpa using malformed
  rw [ofMalformed, ofFindings, errors, invalid]
  rfl

/-! ## Other texts -/

theorem VariableName.ne_empty_of_check {name : String} (named : check name = .ok ()) : name ≠ "" := by
  rintro rfl
  cases named

theorem EnvFile.exists_parse_of_load {w : Workspace} {path : String} {file : EnvFile} (loaded : load w path = .ok file) :
    ∃ content, file = parse content := by
  unfold load at loaded
  split at loaded
  next content _ => exact ⟨content, (Except.ok.inj loaded).symm⟩
  next => cases loaded

section
variable [Host]

namespace Auditor

/-- No key is empty in the schema and in the samples that are given; what is loaded from files has to be named
anyway. -/
structure NamesKeys (auditor : Auditor) : Prop where
  schema : ∀ schema ∈ auditor.schema, ∀ spec ∈ schema.specs, spec.1 ≠ ""
  samples : ∀ samples ∈ auditor.samples, ∀ a ∈ samples, a.key ≠ ""

section
variable {auditor : Auditor} {w : Workspace} (named : auditor.NamesKeys)
include named

theorem empty_notMem_loadSchema {s : Schema} (loaded : auditor.loadSchema w = .ok s) : "" ∉ s.specs.map (·.1) := by
  intro empty
  obtain ⟨spec, member, isEmpty⟩ := List.mem_map.mp empty
  unfold loadSchema at loaded
  split at loaded
  next _ _ given =>
    cases loaded
    exact named.schema _ given spec member isEmpty
  next =>
    obtain ⟨source, d, accepted⟩ := Schema.ofDocument_of_load loaded
    exact VariableName.ne_empty_of_check (Schema.named_of_ofDocument accepted spec member) isEmpty
  next => cases loaded

theorem empty_notMem_loadSamples {l : List Assignment} (loaded : auditor.loadSamples w = .ok l) :
    "" ∉ l.map (·.key) := by
  intro empty
  obtain ⟨a, member, isEmpty⟩ := List.mem_map.mp empty
  unfold loadSamples at loaded
  split at loaded
  next samples given =>
    cases loaded
    exact named.samples _ given a member isEmpty
  next =>
    simp only at loaded
    split at loaded
    next => cases loaded
    next => cases loaded
    next =>
      obtain ⟨file, read, kept⟩ := ok_of_bind loaded
      obtain ⟨content, rfl⟩ := EnvFile.exists_parse_of_load read
      split at kept
      next =>
        cases kept
        exact VariableName.ne_empty_of_check (EnvFile.check_of_mem_parse member) isEmpty
      next => cases kept

theorem empty_notMem_basis {basis : Basis} {observed : List Assignment}
    (found : auditor.basis w observed = .ok basis) : "" ∉ basis.keys := by
  replace found := (basis_eq_ok.mp found).1
  unfold grounds at found
  split at found
  next =>
    obtain ⟨s, loaded, rest⟩ := ok_of_bind found
    obtain ⟨_, -, last⟩ := ok_of_bind rest
    cases last
    exact empty_notMem_loadSchema named loaded
  next =>
    obtain ⟨l, loaded, rfl⟩ := ok_of_map found
    exact empty_notMem_loadSamples named loaded
  next =>
    obtain ⟨s, loadedSchema, rest⟩ := ok_of_bind found
    obtain ⟨_, -, rest⟩ := ok_of_bind rest
    obtain ⟨l, loadedSamples, last⟩ := ok_of_bind rest
    cases last
    rw [Basis.keys, List.mem_append, not_or]
    exact ⟨empty_notMem_loadSchema named loadedSchema, empty_notMem_loadSamples named loadedSamples⟩
  next => cases found

end

/-- Texts with malformed lines are refused by every auditor alike, and on other texts every finding has a variable. -/
theorem auditText_malformed (content : String) :
    ∃ lines, (∀ pieces, HasLines content.toList pieces ↔ pieces = lines) ∧
      ((∃ raw ∈ lines, Line.IsMalformed raw) →
        ∀ (auditor : Auditor) (w : Workspace), auditor.auditText w content = .ok (.refusal lines)) ∧
      ((∀ raw ∈ lines, ¬ Line.IsMalformed raw) →
        ∀ (auditor : Auditor) (w : Workspace) (v : Verdict), auditor.NamesKeys → auditor.auditText w content = .ok v →
          ∀ f ∈ v.findings.toList, f.variableName ≠ "") := by
  have has := hasLines_splitLines content.toList
  have wellFormed_iff := EnvFile.malformed_parse_eq_nil_iff has
  refine ⟨splitLines content.toList, fun pieces => hasLines_iff, ?_, ?_⟩
  · rintro ⟨raw, member, isMalformed⟩ auditor w
    have malformed : (EnvFile.parse content).malformed ≠ [] :=
      fun none => wellFormed_iff.mp none raw member isMalformed
    rw [auditText, audit, if_neg (by simpa using malformed), Verdict.ofMalformed_parse has malformed]
  · intro none auditor w v named made f member isEmpty
    obtain ⟨basis, found, rfl⟩ := (auditor.audit_eq_ok w (wellFormed_iff.mpr none)).mp made
    -- The variable of a finding is a key that is expected or a key that is assigned, and neither is empty.
    rcases auditor.mem_verdict basis member with misses | isPresent
    · exact empty_notMem_basis named found (isEmpty ▸ misses.expected)
    · obtain ⟨a, assigned, points⟩ := isPresent.points
      have key := VariableName.ne_empty_of_check (EnvFile.check_of_mem_parse assigned)
      exact key (points.variableName ▸ isEmpty)

end Auditor

end

attribute [local instance] Host.shipped in
theorem Auditor.auditText_malformed_unknown :
    let content := "A=1\r\n 1B = 2 \n# c\n[a]=x"
    let refusing : Auditor := { config := { mode := some (.unsupported (.str "other")) } }
    let schema : Schema := { specs := [("B", { required := true })] }
    let comparing : Auditor := { config := { mode := some .schema }, schema := some schema }
    refusing.auditText default content = .ok
      { isValid := false
        findings :=
          { errors :=
            [{ kind := .invalidFormat, message := "Invalid variable assignment format: 1B = 2", line := some 2,
               severity := .error },
             { kind := .invalidFormat, message := "Invalid variable assignment format: [a]=x", line := some 4,
               severity := .error }] } } ∧
      comparing.NamesKeys ∧
      ∃ v, comparing.auditText default "A=1" = .ok v ∧ ∀ f ∈ v.findings.toList, f.variableName ≠ "" := by
  intro content refusing schema comparing
  obtain ⟨lines, only, refused, -⟩ := auditText_malformed content
  obtain rfl := (only _).mp (hasLines_splitLines content.toList)
  have malformed : ∃ raw ∈ splitLines content.toList, Line.IsMalformed raw := by decide +kernel
  refine ⟨(refused malformed refusing default).trans (congrArg _ (by decide +kernel)), ?_⟩
  have named : comparing.NamesKeys := ⟨by simp [comparing, schema], by simp [comparing]⟩
  have wellFormed : (EnvFile.parse "A=1").malformed = [] := by decide +kernel
  have made : comparing.auditText default "A=1" =
      .ok (comparing.verdict (EnvFile.parse "A=1") (.schema schema)) :=
    (comparing.audit_eq_ok default wellFormed).mpr ⟨.schema schema, rfl, rfl⟩
  obtain ⟨lines, only, -, about⟩ := auditText_malformed "A=1"
  obtain rfl := (only _).mp (hasLines_splitLines _)
  exact ⟨named, _, made, about (by decide +kernel) comparing default _ named made⟩

end EnvAudit
