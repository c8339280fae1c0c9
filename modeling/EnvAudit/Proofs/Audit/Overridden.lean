import EnvAudit.Catalogue
import EnvAudit.Proofs.Audit.Stages
import EnvAudit.Proofs.EnvFile.Winners

namespace EnvAudit.Auditor

section
variable {x winner : Assignment} {before after : List Assignment}

theorem repeatedNotes_insert (file : EnvFile) (overridden : x.key ∈ after.map (·.key))
    (wins : Assignment.lookup? (before ++ after) x.key = some winner) :
    (repeatedNotes { file with assignments := before ++ x :: after }).Perm
      (repeatedNotes { file with assignments := before ++ after } ++
        if ((before ++ after).map (·.key)).count x.key = 1 then [repeatedNote winner] else []) := by
  have winners : Assignment.lookup? (before ++ x :: after) = Assignment.lookup? (before ++ after) :=
    funext (Assignment.lookup?_insert before overridden)
  have keys := Assignment.repeatedKeys_insert before overridden
  have notes := (keys.filterMap (Assignment.lookup? (before ++ after))).map repeatedNote
  rw [List.filterMap_append, List.map_append] at notes
  unfold repeatedNotes EnvFile.repeatedKeys EnvFile.lookup?
  simp only [winners]
  refine notes.trans (List.Perm.append_left _ ?_)
  split
  · simp [wins]
  · simp

end

section
variable [Host]

/-- `new` is `old` with what the security analysis finds in `x` alone, and with one more note if `x` makes its key
repeat; `others` are the assignments without `x`. -/
def AddsFindingsOf (auditor : Auditor) (w : Workspace) (x : Assignment) (others : List Assignment)
    (old new : Verdict) : Prop :=
  ∃ rules winner, auditor.securityRules w = .ok rules ∧
    Assignment.lookup? others x.key = some winner ∧
    let found := Security.analyze rules [x]
    let notes := if (others.map (·.key)).count x.key = 1 then [repeatedNote winner] else []
    new.findings.Perm (old.findings ++ found ++ { info := notes }) ∧
      new.summary =
        { old.summary with securityIssues := old.summary.securityIssues + found.errors.length }

section
variable {x winner : Assignment} {before after : List Assignment}

theorem afterwards_insert (auditor : Auditor) (file : EnvFile) (rules : List SecurityRule)
    (overridden : x.key ∈ after.map (·.key))
    (wins : Assignment.lookup? (before ++ after) x.key = some winner) :
    (auditor.afterwards { file with assignments := before ++ x :: after } rules).Perm
      (auditor.afterwards { file with assignments := before ++ after } rules ++
        Security.analyze (auditor.config.securityRules ++ rules) [x] ++
        { info := if ((before ++ after).map (·.key)).count x.key = 1
            then [repeatedNote winner] else [] }) := by
  intro s
  let noted (notes : List Finding) : List Finding := Findings.bySeverity { info := notes } s
  have notes : (noted (repeatedNotes { file with assignments := before ++ x :: after })).Perm
      (noted (repeatedNotes { file with assignments := before ++ after }) ++
        noted (if ((before ++ after).map (·.key)).count x.key = 1 then [repeatedNote winner] else [])) := by
    cases s with
    | error => exact .nil
    | warning => exact .nil
    | info => exact repeatedNotes_insert file overridden wins
  have screened := Security.analyze_insert (auditor.config.securityRules ++ rules) before after x s
  have effective := Assignment.effective_insert before overridden
  simp only [afterwards, EnvFile.effective, effective, Findings.bySeverity_append] at screened ⊢
  refine ((List.Perm.append_left _ notes).append screened).trans ?_
  refine List.perm_iff_count.mpr fun f => ?_
  simp only [List.count_append, noted]
  omega

end

/-- An overridden assignment hides no security finding and influences nothing else. -/
theorem audit_insert (auditor : Auditor) (w : Workspace) (file : EnvFile)
    (before after : List Assignment) (x : Assignment) (wellFormed : file.malformed = [])
    (overridden : x.key ∈ after.map (·.key)) :
    SameOutcome (auditor.AddsFindingsOf w x (before ++ after))
      (auditor.audit w { file with assignments := before ++ after })
      (auditor.audit w { file with assignments := before ++ x :: after }) := by
  have run (as : List Assignment) : auditor.audit w { file with assignments := as } =
      (auditor.compare w as).bind (auditor.conclude { file with assignments := as }) := by
    have clean : ({ file with assignments := as } : EnvFile).malformed = [] := wellFormed
    exact auditor.audit_of_wellFormed clean w
  have effective := Assignment.effective_insert before overridden
  rw [run, run, auditor.compare_congr w effective]
  refine SameOutcome.bind fun compared made => ?_
  simp only [conclude_eq, EnvFile.effective, effective]
  refine SameOutcome.map fun _ _ => ?_
  have assigned : x.key ∈ (before ++ after).map (·.key) := by
    rw [List.map_append]
    exact List.mem_append_right _ overridden
  obtain ⟨winner, wins⟩ := Option.isSome_iff_exists.mp (Assignment.lookup?_isSome_iff.mpr assigned)
  refine ⟨auditor.config.securityRules ++ compared.2, winner, auditor.securityRules_of_compare made, wins,
    fun s => ?_, ?_⟩
  · have behind := afterwards_insert auditor file compared.2 overridden wins s
    simp only [concluded, Verdict.ofFindings, Findings.bySeverity_append, List.append_assoc] at behind ⊢
    exact List.Perm.append_left _ behind
  · have screened :=
      (Security.analyze_insert (auditor.config.securityRules ++ compared.2) before after x .error).length_eq
    rw [Findings.bySeverity_append, List.length_append] at screened
    simp only [concluded, securityIssues, Verdict.ofFindings, Summary.mk.injEq, true_and, and_true]
    exact_mod_cast screened

end

attribute [local instance] Host.shipped in
theorem audit_insert_secret :
    let auditor : Auditor := { config := {}, schema := some { specs := [("API_KEY", { required := true })] } }
    let weak : Assignment := { key := "API_KEY", value := "secret", line := 1 }
    let strong : Assignment := { key := "API_KEY", value := "correct horse battery", line := 2 }
    let file : EnvFile := { comments := ["keys"] }
    file.malformed = [] ∧ weak.key ∈ [strong].map (·.key) ∧
      ∃ old new, auditor.audit default { file with assignments := [] ++ [strong] } = .ok old ∧
        auditor.audit default { file with assignments := [] ++ weak :: [strong] } = .ok new ∧
        auditor.AddsFindingsOf default weak ([] ++ [strong]) old new := by
  intro auditor weak strong file
  have overridden : weak.key ∈ [strong].map (·.key) := by simp [weak, strong]
  refine ⟨rfl, overridden, ?_⟩
  have outcome := audit_insert auditor default file [] [strong] weak rfl overridden
  generalize old : auditor.audit default { file with assignments := [] ++ [strong] } = first at outcome ⊢
  generalize new : auditor.audit default { file with assignments := [] ++ weak :: [strong] } = second
    at outcome ⊢
  cases outcome with
  | error e => exact absurd old nofun
  | ok related => exact ⟨_, _, rfl, rfl, related⟩

end EnvAudit.Auditor
