import EnvAudit.Catalogue
import EnvAudit.Proofs.Audit.Completion
import EnvAudit.Proofs.EnvFile.Resolution

namespace EnvAudit

namespace Reference

/-! ## The warning that an assignment draws -/

def IsTelling (sample : Assignment) : Prop :=
  Text.isBlankText sample.value = false ∧ Value.isPlaceholder sample.value = false

/-- A value has the shape, or its sample does not have it either. -/
def Shape.Fits (shape : Shape) (a sample : Assignment) : Prop :=
  shape.holds sample.value = true → shape.holds a.value = true

def firstMisfit (a sample : Assignment) : Option Shape :=
  shapes.find? fun shape => shape.holds sample.value && !shape.holds a.value

section
variable {a sample : Assignment}

theorem Shape.not_fits_iff {shape : Shape} :
    ¬shape.Fits a sample ↔ (shape.holds sample.value && !shape.holds a.value) = true := by
  unfold Fits
  cases shape.holds sample.value <;> simp

theorem firstMisfit_eq_none_iff : firstMisfit a sample = none ↔ ∀ shape ∈ shapes, shape.Fits a sample := by
  simp only [firstMisfit, List.find?_eq_none, ← Shape.not_fits_iff, not_not]

theorem firstMisfit_eq_some_iff {shape : Shape} : firstMisfit a sample = some shape ↔
    ¬shape.Fits a sample ∧
      ∃ before after, shapes = before ++ shape :: after ∧ ∀ other ∈ before, other.Fits a sample := by
  simp only [firstMisfit, List.find?_eq_some_iff_append, Bool.not_eq_true', ← Bool.not_eq_true, ← Shape.not_fits_iff,
    not_not]

theorem isTelling_iff :
    IsTelling sample ↔ (Text.isBlankText sample.value || Value.isPlaceholder sample.value) = false := by
  rw [IsTelling, Bool.or_eq_false_iff]

theorem compare_of_not_isTelling (untold : ¬IsTelling sample) : compare a sample = none := by
  rw [isTelling_iff, Bool.not_eq_false] at untold
  rw [compare, if_pos untold]

theorem compare_of_isBlank (telling : IsTelling sample) (blank : Text.isBlankText a.value = true) :
    compare a sample = some (emptyWarning a sample) := by
  rw [compare, isTelling_iff.mp telling, if_neg Bool.false_ne_true, if_pos blank]

theorem compare_of_not_isBlank (telling : IsTelling sample) (filled : Text.isBlankText a.value = false) :
    compare a sample = (firstMisfit a sample).map (shapeWarning a sample) := by
  rw [compare, isTelling_iff.mp telling, filled, if_neg Bool.false_ne_true, if_neg Bool.false_ne_true, firstMisfit]

end

theorem assigns_of_same {samples as : List Assignment}
    (same : ∀ key, (Assignment.lookup? as key).map (·.value) = (Assignment.lookup? samples key).map (·.value))
    (key : String) : Assignment.assigns as key = Assignment.assigns samples key := by
  rw [← Assignment.lookup?_isSome, ← Assignment.lookup?_isSome, ← Option.isSome_map, same, Option.isSome_map]

section
variable [Host]

/-- The warning that an assignment draws, if any, by the sample for its key, if there is one. -/
inductive Draws (patterns : List String) (a : Assignment) : Option Assignment → Option Finding → Prop
  | ignored : Assignment.isIgnored patterns a.key = true → Draws patterns a none none
  | extra : Assignment.isIgnored patterns a.key = false → Draws patterns a none (some (extraWarning a))
  | untold {sample : Assignment} : ¬IsTelling sample → Draws patterns a (some sample) none
  | empty {sample : Assignment} : IsTelling sample → Text.isBlankText a.value = true →
      Draws patterns a (some sample) (some (emptyWarning a sample))
  | misshapen {sample : Assignment} {before after : List Shape} {shape : Shape} : IsTelling sample →
      Text.isBlankText a.value = false → shapes = before ++ shape :: after → (∀ other ∈ before, other.Fits a sample) →
      ¬shape.Fits a sample → Draws patterns a (some sample) (some (shapeWarning a sample shape))
  | shapely {sample : Assignment} : IsTelling sample → Text.isBlankText a.value = false →
      (∀ shape ∈ shapes, shape.Fits a sample) → Draws patterns a (some sample) none

def drawn (patterns : List String) (a : Assignment) : Option Assignment → Option Finding
  | none => if Assignment.isIgnored patterns a.key then none else some (extraWarning a)
  | some sample => compare a sample

section
variable {patterns : List String} {a sample : Assignment}

theorem drawn_of_draws {found : Option Assignment} {w : Option Finding} (draws : Draws patterns a found w) :
    w = drawn patterns a found := by
  cases draws with
  | ignored free => rw [drawn, if_pos free]
  | extra counts => rw [drawn, counts, if_neg Bool.false_ne_true]
  | untold untold => rw [drawn, compare_of_not_isTelling untold]
  | empty telling blank => rw [drawn, compare_of_isBlank telling blank]
  | misshapen telling filled order fit misfit =>
      rw [drawn, compare_of_not_isBlank telling filled, firstMisfit_eq_some_iff.mpr ⟨misfit, _, _, order, fit⟩,
        Option.map_some]
  | shapely telling filled fit =>
      rw [drawn, compare_of_not_isBlank telling filled, firstMisfit_eq_none_iff.mpr fit, Option.map_none]

theorem draws_compare : Draws patterns a (some sample) (compare a sample) := by
  by_cases telling : IsTelling sample
  · cases blank : Text.isBlankText a.value with
    | true =>
        rw [compare_of_isBlank telling blank]
        exact .empty telling blank
    | false =>
        rw [compare_of_not_isBlank telling blank]
        cases first : firstMisfit a sample with
        | none => exact .shapely telling blank (firstMisfit_eq_none_iff.mp first)
        | some shape =>
            obtain ⟨misfit, before, after, order, fit⟩ := firstMisfit_eq_some_iff.mp first
            exact .misshapen telling blank order fit misfit
  · rw [compare_of_not_isTelling telling]
    exact .untold telling

theorem draws_drawn (found : Option Assignment) : Draws patterns a found (drawn patterns a found) := by
  cases found with
  | none =>
      cases free : Assignment.isIgnored patterns a.key with
      | true =>
          rw [drawn, if_pos free]
          exact .ignored free
      | false =>
          rw [drawn, free, if_neg Bool.false_ne_true]
          exact .extra free
  | some sample => exact draws_compare

theorem draws_iff {found : Option Assignment} {w : Option Finding} :
    Draws patterns a found w ↔ w = drawn patterns a found :=
  ⟨drawn_of_draws, fun same => same ▸ draws_drawn found⟩

end

/-! ## Verdicts -/

/-- What a verdict on assignments says if it answers the comparison with samples. Of equal keys `dedup` keeps the last
one. -/
structure Compares (samples : List Assignment) (patterns : List String) (as : List Assignment) (v : Verdict) :
    Prop where
  missing : v.findings.errors.map (·.variableName) = (samples.map (·.key)).dedup.filter fun key =>
    decide (key ∉ as.map (·.key)) && !Assignment.isIgnored patterns key
  missing_once : (v.findings.errors.map (·.variableName)).Nodup
  missing_error : ∀ f ∈ v.findings.errors, f.kind = .missingRequired ∧
    ∃ sample, Assignment.lookup? samples f.variableName = some sample ∧ f = missingError sample
  isValid_iff : v.isValid = true ↔
    ∀ key ∈ samples.map (·.key), key ∈ as.map (·.key) ∨ Assignment.isIgnored patterns key = true
  warned_assigned : ∀ f ∈ v.findings.warnings, f.variableName ∈ as.map (·.key)
  warned : ∀ key a, Assignment.lookup? as key = some a → ∃ w : Option Finding,
    v.findings.warnings.filter (·.variableName == key) = w.toList ∧
      ∀ w', Draws patterns a (Assignment.lookup? samples key) w' ↔ w' = w

section
variable (patterns : List String)

def unshared (others as : List Assignment) : List Assignment :=
  (as.filter fun a => !Assignment.assigns others a.key).filter fun a => !Assignment.isIgnored patterns a.key

theorem keys_unshared (others as : List Assignment) :
    (unshared patterns (Assignment.effective others) (Assignment.effective as)).map (·.key) =
      (as.map (·.key)).dedup.filter fun key =>
        decide (key ∉ others.map (·.key)) && !Assignment.isIgnored patterns key := by
  rw [← Assignment.keys_filter_effective, unshared, List.filter_filter]
  simp only [Assignment.assigns_effective, decide_not, Assignment.decide_mem_keys, Bool.and_comm]

def warnings (reference observed : List Assignment) : List Finding :=
  (unshared patterns reference observed).map extraWarning ++
    (paired reference observed).filterMap fun (a, sample) => compare a sample

theorem variableName_of_mem_warnings {reference observed : List Assignment} {f : Finding}
    (member : f ∈ warnings patterns reference observed) : ∃ a ∈ observed, f.variableName = a.key := by
  rcases List.mem_append.mp member with extra | unlike
  · obtain ⟨a, found, rfl⟩ := List.mem_map.mp extra
    exact ⟨a, List.mem_of_mem_filter (List.mem_of_mem_filter found), rfl⟩
  · obtain ⟨⟨a, sample⟩, pair, found⟩ := List.mem_filterMap.mp unlike
    exact ⟨a, (mem_paired.mp pair).1, (isAbout_compare found).variableName⟩

theorem filter_warnings (reference observed : List Assignment) (key : String) :
    (warnings patterns reference observed).filter (·.variableName == key) =
      warnings patterns reference (observed.filter (·.key == key)) := by
  have extra : ((unshared patterns reference observed).map extraWarning).filter (·.variableName == key) =
      (unshared patterns reference (observed.filter (·.key == key))).map extraWarning := by
    simp only [List.filter_map, unshared, List.filter_filter]
    congr 2
    funext a
    exact Bool.and_comm _ _ |>.trans (Bool.and_assoc _ _ _)
  have unlike : ((paired reference observed).filterMap fun (a, sample) => compare a sample).filter
        (·.variableName == key) =
      (paired reference (observed.filter (·.key == key))).filterMap fun (a, sample) => compare a sample := by
    simp only [paired, List.filterMap_filterMap, List.filter_filterMap, List.filterMap_filter]
    refine List.filterMap_congr fun a _ => ?_
    cases Assignment.lookup? reference a.key with
    | none => simp
    | some sample =>
        rw [Option.map_some, Option.bind_some]
        cases found : compare a sample with
        | none => cases a.key == key <;> simp [found]
        | some f =>
            rw [Option.filter_some, (isAbout_compare found).variableName]
            cases a.key == key <;> simp [found]
  rw [warnings, List.filter_append, extra, unlike, warnings]

theorem warnings_singleton (reference : List Assignment) (a : Assignment) :
    warnings patterns reference [a] = (drawn patterns a (Assignment.lookup? reference a.key)).toList := by
  have known := Assignment.lookup?_isSome reference a.key
  cases found : Assignment.lookup? reference a.key with
  | none =>
      rw [found] at known
      cases free : Assignment.isIgnored patterns a.key <;> simp [warnings, unshared, paired, drawn, found, ← known, free]
  | some sample =>
      rw [found] at known
      cases unlike : compare a sample <;> simp [warnings, unshared, paired, drawn, found, ← known, unlike]

end

section
variable (samples : List Assignment) (patterns : List String) (as : List Assignment)

def answer : Verdict :=
  let reference := Assignment.effective samples
  let observed := Assignment.effective as
  let found := findings reference observed (unshared patterns observed reference) (unshared patterns reference observed)
  .ofFindings found (summary reference observed found)

theorem audit_cases : audit samples patterns as = .ok (answer samples patterns as) ∨
    ∃ e, audit samples patterns as = .error e ∧ ∃ text ∈ patterns, Pattern.compile text = .error e := by
  unfold audit
  rcases Assignment.notIgnored_cases patterns ((Assignment.effective samples).filter fun sample =>
    !Assignment.assigns (Assignment.effective as) sample.key) with missing | ⟨e, failed, flawed⟩
  · rcases Assignment.notIgnored_cases patterns ((Assignment.effective as).filter fun a =>
      !Assignment.assigns (Assignment.effective samples) a.key) with extra | ⟨e, failed, flawed⟩
    · simp only [missing, extra]
      exact Or.inl rfl
    · simp only [missing, failed]
      exact Or.inr ⟨e, rfl, flawed⟩
  · simp only [failed]
    exact Or.inr ⟨e, rfl, flawed⟩

theorem compares_answer : Compares samples patterns as (answer samples patterns as) := by
  have errors : (answer samples patterns as).findings.errors =
      (unshared patterns (Assignment.effective as) (Assignment.effective samples)).map missingError := rfl
  have warned : (answer samples patterns as).findings.warnings =
      warnings patterns (Assignment.effective samples) (Assignment.effective as) := rfl
  have names : (answer samples patterns as).findings.errors.map (·.variableName) =
      (samples.map (·.key)).dedup.filter fun key =>
        decide (key ∉ as.map (·.key)) && !Assignment.isIgnored patterns key := by
    rw [errors, List.map_map, ← keys_unshared]
    rfl
  have valid : (answer samples patterns as).isValid = (answer samples patterns as).findings.errors.isEmpty := rfl
  constructor
  case missing => exact names
  case missing_once => exact names ▸ (List.nodup_dedup _).sublist List.filter_sublist
  case missing_error =>
    rw [errors]
    intro f member
    obtain ⟨sample, lacks, rfl⟩ := List.mem_map.mp member
    have wins := List.mem_of_mem_filter (List.mem_of_mem_filter lacks)
    exact ⟨rfl, sample, Assignment.mem_effective_iff_lookup?.mp wins, rfl⟩
  case isValid_iff =>
    rw [valid, List.isEmpty_iff, ← List.map_eq_nil_iff (f := (·.variableName)), names, List.filter_eq_nil_iff]
    refine forall_congr' fun key => imp_congr List.mem_dedup ?_
    rw [Bool.and_eq_true, decide_eq_true_eq, Bool.not_eq_true', not_and, Bool.not_eq_false, or_iff_not_imp_left]
  case warned_assigned =>
    rw [warned]
    intro f member
    obtain ⟨a, wins, same⟩ := variableName_of_mem_warnings patterns member
    rw [same, ← Assignment.mem_keys_effective]
    exact List.mem_map_of_mem wins
  case warned =>
    intro key a found
    obtain ⟨-, rfl⟩ := Assignment.mem_effective_of_lookup? found
    refine ⟨drawn patterns a (Assignment.lookup? samples a.key), ?_, fun w => draws_iff⟩
    rw [warned, filter_warnings, Assignment.filter_effective_of_lookup? found, warnings_singleton,
      Assignment.lookup?_effective]

end

section
variable {samples : List Assignment} {patterns : List String} {as : List Assignment}
  (same : ∀ key, (Assignment.lookup? as key).map (·.value) = (Assignment.lookup? samples key).map (·.value))
include same

theorem audit_of_same : audit samples patterns as = .ok (answer samples patterns as) := by
  -- Neither side has a key that the other lacks, so no key is tested with the patterns.
  have none {others bs : List Assignment} (all : ∀ key, Assignment.assigns bs key = Assignment.assigns others key) :
      (Assignment.effective bs).filter (fun b => !Assignment.assigns (Assignment.effective others) b.key) = [] := by
    refine List.filter_eq_nil_iff.mpr fun b wins => ?_
    rw [Assignment.assigns_effective, ← all, ← Assignment.assigns_effective,
      Assignment.assigns_iff.mpr (List.mem_map_of_mem wins)]
    exact Bool.false_ne_true
  have missing := none fun key => (assigns_of_same same key).symm
  have extra := none (assigns_of_same same)
  simp only [audit, answer, unshared, missing, extra, List.filter_nil]
  rfl

theorem Compares.quiet {v : Verdict} (compares : Compares samples patterns as v) :
    v.findings.errors = [] ∧ v.findings.warnings = [] := by
  constructor
  · rw [← List.map_eq_nil_iff (f := (·.variableName)), compares.missing, List.filter_eq_nil_iff]
    intro key needed
    rw [decide_not, Assignment.decide_mem_keys, assigns_of_same same,
      Assignment.assigns_iff.mpr (List.mem_dedup.mp needed)]
    exact Bool.false_ne_true
  · -- A warning is about an assigned key, and the winner of that key draws none.
    refine List.eq_nil_iff_forall_not_mem.mpr fun f member => ?_
    obtain ⟨a, found⟩ := Option.isSome_iff_exists.mp
      (Assignment.lookup?_isSome_iff.mpr (compares.warned_assigned f member))
    obtain ⟨w, own, draws⟩ := compares.warned f.variableName a found
    obtain ⟨sample, sampled, value⟩ : ∃ sample, Assignment.lookup? samples f.variableName = some sample ∧
        sample.value = a.value := by
      have values := same f.variableName
      rw [found, Option.map_some] at values
      exact Option.map_eq_some_iff.mp values.symm
    have silent : w = none := by
      rw [draws_iff.mp ((draws w).mpr rfl), sampled]
      exact compare_of_value_eq value.symm
    have kept : f ∈ v.findings.warnings.filter (·.variableName == f.variableName) :=
      List.mem_filter.mpr ⟨member, beq_self_eq_true _⟩
    rw [own, silent] at kept
    cases kept

end

/-- An audit against samples answers the comparison, unless one of the texts is no pattern. If every key has the same
value on both sides, then there is a verdict in any case, without errors and warnings. -/
theorem audit_compares (samples : List Assignment) (patterns : List String) (as : List Assignment) :
    ((∃ v, audit samples patterns as = .ok v ∧ Compares samples patterns as v) ∨
      ∃ e, audit samples patterns as = .error e ∧ ∃ text ∈ patterns, Pattern.compile text = .error e) ∧
    shapes.map (fun shape => (shape.name, shape.holds)) =
      [("URL", Value.isUrl), ("number", Value.isNumber), ("boolean", Value.isBoolean), ("email", Value.isEmail)] ∧
    ((∀ key, (Assignment.lookup? as key).map (·.value) = (Assignment.lookup? samples key).map (·.value)) →
      ∃ v, audit samples patterns as = .ok v ∧ v.findings.errors = [] ∧ v.findings.warnings = []) := by
  refine ⟨?_, by simp only [shapes, List.map_cons, List.map_nil], fun same => ?_⟩
  · exact (audit_cases samples patterns as).imp_left fun answered =>
      ⟨_, answered, compares_answer samples patterns as⟩
  · exact ⟨_, audit_of_same same, (compares_answer samples patterns as).quiet same⟩

end

end Reference

attribute [local instance] Host.shipped in
theorem Reference.audit_compares_reordered :
    let samples : List Assignment := [{ key := "PORT", value := "80", line := 1 },
      { key := "HOST", value := "a.example.org", line := 2 }]
    let as : List Assignment := [{ key := "HOST", value := "b", line := 1 },
      { key := "HOST", value := "a.example.org", line := 2 }, { key := "PORT", value := "80", line := 3 }]
    (∀ key, (Assignment.lookup? as key).map (·.value) = (Assignment.lookup? samples key).map (·.value)) ∧
      (∃ e, Pattern.compile "(" = .error e) ∧
      ∃ v, audit samples ["("] as = .ok v ∧ v.findings.errors = [] ∧ v.findings.warnings = [] := by
  intro samples as
  have same (key : String) :
      (Assignment.lookup? as key).map (·.value) = (Assignment.lookup? samples key).map (·.value) := by
    by_cases port : "PORT" = key
    · subst port
      rfl
    · by_cases host : "HOST" = key <;> simp [samples, as, Assignment.lookup?, port, host]
  exact ⟨same, ⟨_, rfl⟩, (audit_compares samples ["("] as).2.2 same⟩

end EnvAudit
