import EnvAudit.Catalogue
import EnvAudit.Proofs.Audit.Counts
import EnvAudit.Proofs.Audit.Order
import EnvAudit.Proofs.EnvFile.Joining
import EnvAudit.Proofs.EnvFile.Rewriting

namespace EnvAudit

/-! ## Texts with assignments below them -/

namespace EnvFile

theorem parse_feed (a b : String) :
    parse (a ++ "\n" ++ b) = parse a ++ (parse b).below (a.toList.count '\n' + 1) := by
  have text : (a ++ "\n" ++ b).toList = a.toList ++ '\n' :: b.toList := by simp
  have lines := map_splitLines_append Line.read_concat_return a.toList b.toList
  rw [parse, text, lines, List.zipIdx_append, ofLines_append, List.length_map,
    (hasLines_splitLines a.toList).length_eq, ofLines_zipIdx_add]
  rfl

end EnvFile

namespace Assignment

/-- An assignment that reads back as it was from the line that is written of it. -/
structure Survives (a : Assignment) : Prop where
  writable : a.IsWritable
  reread : ∀ n, a.reread n = { a with line := n }

theorem survives_of_unquoted {text : String} {a : Assignment} (member : a ∈ (EnvFile.parse text).assignments)
    (unquoted : a.isQuoted = false) : a.Survives := by
  have plain : a.NeedsNoEscape := fun quoted => absurd quoted (by simp [unquoted])
  obtain ⟨writable, reread⟩ := reread_of_mem_parse member plain
  exact ⟨writable, reread⟩

theorem parse_written {as : List Assignment} (survive : ∀ a ∈ as, a.Survives) (text : String) :
    ∃ added, (EnvFile.parse (text ++ "\n" ++ stringify as)).assignments =
        (EnvFile.parse text).assignments ++ added ∧
      (EnvFile.parse (text ++ "\n" ++ stringify as)).malformed = (EnvFile.parse text).malformed ∧
      added.map content = as.map content := by
  have written : (EnvFile.parse (stringify as)).malformed = [] ∧
      (EnvFile.parse (stringify as)).assignments.map content = as.map content := by
    by_cases empty : as = []
    · subst empty
      exact ⟨rfl, rfl⟩
    · rw [parse_stringify empty fun a member => (survive a member).writable]
      refine ⟨rfl, ?_⟩
      rw [List.map_map]
      conv_rhs => rw [← List.zipIdx_map_fst 1 as, List.map_map]
      refine List.map_congr_left fun (a, n) member => ?_
      show (a.reread n).content = a.content
      rw [(survive a (List.fst_mem_of_mem_zipIdx member)).reread]
      rfl
  obtain ⟨clean, same⟩ := written
  rw [EnvFile.parse_feed]
  refine ⟨_, rfl, ?_, ?_⟩
  · show _ ++ (EnvFile.parse (stringify as)).malformed.map _ = _
    rw [clean, List.map_nil, List.append_nil]
  · show ((EnvFile.parse (stringify as)).assignments.map _).map content = _
    rw [List.map_map]
    exact same

end Assignment

/-! ## Samples that are supplied -/

namespace Reference

theorem compare_of_value_eq {a sample : Assignment} (same : a.value = sample.value) : compare a sample = none := by
  unfold compare
  rw [same]
  split
  · rfl
  · rename_i telling
    rw [Bool.or_eq_true, not_or] at telling
    rw [if_neg telling.1, Option.map_eq_none_iff, List.find?_eq_none]
    intro shape _
    simp

theorem suggestion_missingError {sample : Assignment} (unquoted : sample.isQuoted = false) :
    (missingError sample).suggestion = some sample.render := by
  obtain ⟨key, value, line, isQuoted, comment⟩ := sample
  obtain rfl : isQuoted = false := unquoted
  cases comment with
  | none => rfl
  | some text => by_cases empty : text = "" <;> simp [missingError, Assignment.render, Assignment.text, Option.filter, empty]

section
variable [Host]

section
variable {ignored : List Pattern} {reference observed added : List Assignment}
  (supplied : added.map Assignment.content = (missing ignored reference observed).map Assignment.content)
include supplied

theorem exists_missing {a : Assignment} (member : a ∈ added) :
    ∃ sample ∈ reference, !Assignment.assigns observed sample.key ∧ sample.key = a.key ∧
      sample.value = a.value := by
  have found : a.content ∈ (missing ignored reference observed).map Assignment.content :=
    supplied ▸ List.mem_map_of_mem member
  obtain ⟨sample, lacks, same⟩ := List.mem_map.mp found
  obtain ⟨inReference, unassigned⟩ := Assignment.mem_of_mem_unmatched lacks
  simp only [Assignment.content, Prod.mk.injEq] at same
  exact ⟨sample, inReference, unassigned, same.1, same.2.1⟩

theorem keys_supplied : added.map (·.key) = (missing ignored reference observed).map (·.key) := by
  have keys := congrArg (List.map Prod.fst) supplied
  rw [List.map_map, List.map_map] at keys
  exact keys

theorem missing_supplied : missing ignored reference (observed ++ added) = [] := by
  refine List.eq_nil_iff_forall_not_mem.mpr fun sample lacks => ?_
  obtain ⟨found, free⟩ := List.mem_filter.mp lacks
  obtain ⟨inReference, unassigned⟩ := List.mem_filter.mp found
  have either : Assignment.assigns (observed ++ added) sample.key =
      (Assignment.assigns observed sample.key || Assignment.assigns added sample.key) := List.any_append
  rw [either, Bool.not_or, Bool.and_eq_true] at unassigned
  have before : sample ∈ missing ignored reference observed :=
    List.mem_filter.mpr ⟨List.mem_filter.mpr ⟨inReference, unassigned.1⟩, free⟩
  have assigned : Assignment.assigns added sample.key = true := by
    rw [Assignment.assigns_iff, keys_supplied supplied]
    exact List.mem_map_of_mem before
  rw [assigned] at unassigned
  cases unassigned.2

theorem extra_supplied : extra ignored reference (observed ++ added) = extra ignored reference observed := by
  have known : added.filter (fun a => !Assignment.assigns reference a.key) = [] := by
    refine List.filter_eq_nil_iff.mpr fun a member => ?_
    obtain ⟨sample, inReference, -, key, -⟩ := exists_missing supplied member
    have assigned : Assignment.assigns reference a.key = true :=
      Assignment.assigns_iff.mpr (key ▸ List.mem_map_of_mem inReference)
    simp [assigned]
  rw [extra, List.filter_append, known, List.append_nil, extra]

section
variable (distinct : (reference.map (·.key)).Nodup)
include distinct

theorem warnings_supplied : (verdict reference ignored (observed ++ added)).findings.warnings =
    (verdict reference ignored observed).findings.warnings := by
  have warnings (seen : List Assignment) : (verdict reference ignored seen).findings.warnings =
      (extra ignored reference seen).map extraWarning ++
        (paired reference seen).filterMap fun pair => compare pair.1 pair.2 := rfl
  have silent : ((paired reference added).filterMap fun pair => compare pair.1 pair.2) = [] := by
    refine List.filterMap_eq_nil_iff.mpr fun pair held => ?_
    obtain ⟨a, sample⟩ := pair
    obtain ⟨member, found⟩ := mem_paired.mp held
    obtain ⟨own, inReference, -, key, value⟩ := exists_missing supplied member
    obtain ⟨wins, sameKey⟩ := Assignment.mem_effective_of_lookup? found
    obtain rfl := List.inj_on_of_nodup_map distinct (Assignment.effective_subset reference wins) inReference
      (sameKey.trans key.symm)
    exact compare_of_value_eq value.symm
  have pairs : paired reference (observed ++ added) = paired reference observed ++ paired reference added :=
    List.filterMap_append
  rw [warnings, warnings, extra_supplied supplied, pairs, List.filterMap_append, silent, List.append_nil]

theorem effective_supplied {as : List Assignment} (winners : Assignment.effective as = observed) :
    Assignment.effective (as ++ added) = observed ++ added := by
  have nodup : (added.map (·.key)).Nodup := by
    rw [keys_supplied supplied]
    exact distinct.sublist ((List.filter_sublist.trans List.filter_sublist).map _)
  rw [Assignment.effective_append, Assignment.effective_of_nodup nodup, winners]
  congr 1
  refine List.filter_eq_self.mpr fun a member => ?_
  have other : a.key ∉ added.map (·.key) := by
    intro again
    obtain ⟨b, inAdded, same⟩ := List.mem_map.mp again
    obtain ⟨sample, -, unassigned, key, -⟩ := exists_missing supplied inAdded
    have assigned : Assignment.assigns observed sample.key = true :=
      Assignment.assigns_iff.mpr (key ▸ same ▸ List.mem_map_of_mem member)
    simp [assigned] at unassigned
  simpa using other

end

end

/-! ## Suggestions -/

def completed (text : String) (v : Verdict) : String :=
  text ++ "\n" ++ "\n".intercalate (v.findings.errors.filterMap (·.suggestion))

theorem completed_verdict {ignored : List Pattern} {reference observed : List Assignment}
    (unquoted : ∀ sample ∈ reference, sample.isQuoted = false) (text : String) :
    completed text (verdict reference ignored observed) =
      text ++ "\n" ++ Assignment.stringify (missing ignored reference observed) := by
  have errors : (verdict reference ignored observed).findings.errors =
      (missing ignored reference observed).map missingError := rfl
  have lines : ((missing ignored reference observed).map missingError).filterMap (·.suggestion) =
      (missing ignored reference observed).map Assignment.render := by
    rw [List.filterMap_map, ← List.filterMap_eq_map]
    refine List.filterMap_congr fun sample lacks => ?_
    exact suggestion_missingError (unquoted sample (Assignment.mem_of_mem_unmatched lacks).1)
  rw [completed, errors, lines, Assignment.stringify]

/-- If no winning sample is quoted, following the suggestions leaves no variable missing and adds neither a malformed
line nor a warning. -/
theorem audit_completed (reference text : String) (patterns : List String)
    (unquoted : ∀ sample ∈ (EnvFile.parse reference).effective, sample.isQuoted = false)
    (valid : ∀ pattern ∈ patterns, ∃ p, Pattern.compile pattern = .ok p) :
    let samples := (EnvFile.parse reference).assignments
    ∃ v, audit samples patterns (EnvFile.parse text).assignments = .ok v ∧
      (∀ f ∈ v.findings.errors, f.suggestion.isSome) ∧
      let file := EnvFile.parse (completed text v)
      file.malformed = (EnvFile.parse text).malformed ∧
        ∃ v', audit samples patterns file.assignments = .ok v' ∧
          v'.findings.errors = [] ∧ v'.findings.warnings = v.findings.warnings := by
  intro samples
  obtain ⟨ignored, rfl⟩ := Pattern.exists_texts valid
  simp only [audit_texts]
  replace unquoted : ∀ sample ∈ Assignment.effective samples, sample.isQuoted = false := unquoted
  have survive : ∀ sample ∈ missing ignored (Assignment.effective samples)
      (Assignment.effective (EnvFile.parse text).assignments), sample.Survives := by
    intro sample lacks
    have wins := (Assignment.mem_of_mem_unmatched lacks).1
    exact Assignment.survives_of_unquoted (Assignment.effective_subset samples wins) (unquoted sample wins)
  obtain ⟨added, assignments, malformed, supplied⟩ := Assignment.parse_written survive text
  have distinct := Assignment.keys_effective_nodup samples
  refine ⟨_, rfl, ?_, ?_⟩
  · intro f member
    obtain ⟨sample, -, rfl⟩ := List.mem_map.mp member
    rfl
  · rw [completed_verdict unquoted, assignments, effective_supplied supplied distinct rfl]
    refine ⟨malformed, _, rfl, ?_, warnings_supplied supplied distinct⟩
    show (missing ignored _ (_ ++ added)).map missingError = []
    rw [missing_supplied supplied, List.map_nil]

end

end Reference

attribute [local instance] Host.shipped in
theorem Reference.audit_completed_host :
    let reference := "PORT=8080\nHOST='localhost # \"main\" host\nTMP_DIR=/tmp"
    let text := "export=1\nPORT=http\n=?"
    let patterns := ["^TMP_"]
    (∀ sample ∈ (EnvFile.parse reference).effective, sample.isQuoted = false) ∧
      (∀ pattern ∈ patterns, ∃ p, Pattern.compile pattern = .ok p) ∧
      let samples := (EnvFile.parse reference).assignments
      ∃ v, audit samples patterns (EnvFile.parse text).assignments = .ok v ∧
        (∀ f ∈ v.findings.errors, f.suggestion.isSome) ∧
        let file := EnvFile.parse (completed text v)
        file.malformed = (EnvFile.parse text).malformed ∧
          ∃ v', audit samples patterns file.assignments = .ok v' ∧
            v'.findings.errors = [] ∧ v'.findings.warnings = v.findings.warnings := by
  intro reference text patterns
  have unquoted : ∀ sample ∈ (EnvFile.parse reference).effective, sample.isQuoted = false := by decide +kernel
  have valid : ∀ pattern ∈ patterns, ∃ p, Pattern.compile pattern = .ok p :=
    List.forall_mem_singleton.mpr ⟨_, rfl⟩
  exact ⟨unquoted, valid, audit_completed reference text patterns unquoted valid⟩

end EnvAudit
