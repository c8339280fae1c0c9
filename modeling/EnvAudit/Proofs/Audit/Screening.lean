import EnvAudit.Proofs.Audit.Counts
import Mathlib.Data.List.Flatten

namespace EnvAudit.Security

variable [Host]

/-- Findings together with further ones, both in their order. -/
structure Extends (old further new : List Finding) : Prop where
  keeps : old.Sublist new
  adds : further.Sublist new
  perm : new.Perm (old ++ further)

def ruled (rules : List SecurityRule) (s : Severity) (a : Assignment) : List Finding :=
  (rules.filter fun rule => rule.severity == s && rule.pattern.search a.text).map fun rule => ruleFinding rule a

def unruled (s : Severity) (a : Assignment) : List Finding :=
  (checkSecret a ++ checkSigns a ++ checkData a).filter (·.severity == s)

theorem severity_ruleFinding (rule : SecurityRule) (a : Assignment) :
    (ruleFinding rule a).severity = rule.severity := by
  unfold ruleFinding
  split
  · rename_i isInfo
    exact (beq_iff_eq.mp isInfo).symm
  · rfl

theorem filter_checkRules (rules : List SecurityRule) (s : Severity) (a : Assignment) :
    (checkRules rules a).filter (·.severity == s) = ruled rules s a := by
  have severity : ((·.severity == s) ∘ fun rule => ruleFinding rule a) = fun rule => rule.severity == s := by
    funext rule
    rw [Function.comp_apply, severity_ruleFinding]
  rw [checkRules, List.filter_map, severity, List.filter_filter, ruled]

theorem ruled_append (rules more : List SecurityRule) (s : Severity) (a : Assignment) :
    ruled (rules ++ more) s a = ruled rules s a ++ ruled more s a := by
  rw [ruled, List.filter_append, List.map_append, ruled, ruled]

theorem bySeverity_analyze (rules : List SecurityRule) (as : List Assignment) (s : Severity) :
    (analyze rules as).bySeverity s =
      as.flatMap fun a => ruled (builtinRules ++ rules) s a ++ unruled s a := by
  have one (a : Assignment) : (check (builtinRules ++ rules) a).filter (·.severity == s) =
      ruled (builtinRules ++ rules) s a ++ unruled s a := by
    simp only [check, unruled, List.filter_append, filter_checkRules, List.append_assoc]
  simp only [analyze, Findings.bySeverity_ofList, List.filter_flatMap, one]

theorem analyze_append (rules : List SecurityRule) (as bs : List Assignment) :
    analyze rules (as ++ bs) = analyze rules as ++ analyze rules bs := by
  refine Findings.eq_of_bySeverity fun s => ?_
  rw [Findings.bySeverity_append, bySeverity_analyze, List.flatMap_append, bySeverity_analyze, bySeverity_analyze]

theorem ruled_sublist (rules : List SecurityRule) (as : List Assignment) (s : Severity) :
    (as.flatMap (ruled (builtinRules ++ rules) s)).Sublist ((analyze rules as).bySeverity s) := by
  rw [bySeverity_analyze]
  exact .flatMap_right as fun a _ => List.sublist_append_left _ _

theorem extends_analyze (rules more : List SecurityRule) (as : List Assignment) (s : Severity) :
    Extends ((analyze rules as).bySeverity s) (as.flatMap (ruled more s))
      ((analyze (rules ++ more) as).bySeverity s) := by
  have whole (a : Assignment) : ruled (builtinRules ++ (rules ++ more)) s a =
      ruled (builtinRules ++ rules) s a ++ ruled more s a := by
    rw [← List.append_assoc, ruled_append]
  simp only [bySeverity_analyze, whole]
  constructor
  case keeps =>
    exact .flatMap_right as fun a _ => (List.sublist_append_left _ _).append_right _
  case adds =>
    exact .flatMap_right as fun a _ => (List.sublist_append_right _ _).trans (List.sublist_append_left _ _)
  case perm =>
    have behind (a : Assignment) : (ruled (builtinRules ++ rules) s a ++ ruled more s a ++ unruled s a).Perm
        (ruled (builtinRules ++ rules) s a ++ unruled s a ++ ruled more s a) := by
      rw [List.append_assoc, List.append_assoc]
      exact List.perm_append_comm.append_left _
    exact (List.Perm.flatMap_left as fun a _ => behind a).trans (List.flatMap_append_perm as _ _).symm

/-- Assignments are analysed one by one. Further rules add a finding for each assignment that they occur in, to the list
of their severity, and all rules find what they find whatever the others are called; each error is a security risk. -/
theorem analyze_extends (rules more : List SecurityRule) (as bs : List Assignment) :
    analyze rules (as ++ bs) = analyze rules as ++ analyze rules bs ∧
      (∀ s, Extends ((analyze rules as).bySeverity s) (as.flatMap (ruled more s))
        ((analyze (rules ++ more) as).bySeverity s)) ∧
      (∀ s, (as.flatMap (ruled (builtinRules ++ rules) s)).Sublist ((analyze rules as).bySeverity s)) ∧
      ∀ f ∈ (analyze rules as).errors, f.kind = .securityRisk :=
  ⟨analyze_append rules as bs, extends_analyze rules more as, ruled_sublist rules as, fun _ => kind_of_mem_errors⟩

end EnvAudit.Security
