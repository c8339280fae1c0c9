import EnvAudit.Catalogue
import EnvAudit.Proofs.Report.Junit
import EnvAudit.Proofs.Verdict.WellFormed

namespace EnvAudit

theorem Verdict.IsWellFormed.countP_error {v : Verdict} (h : v.IsWellFormed) :
    v.findings.toList.countP (·.severity == .error) = v.findings.errors.length := by
  have errors : v.findings.errors.countP (·.severity == .error) = v.findings.errors.length :=
    List.countP_eq_length.mpr fun f member => by simp [h.sorted .error f member]
  have warnings : v.findings.warnings.countP (·.severity == .error) = 0 :=
    List.countP_eq_zero.mpr fun f member => by simp [h.sorted .warning f member]
  have info : v.findings.info.countP (·.severity == .error) = 0 :=
    List.countP_eq_zero.mpr fun f member => by simp [h.sorted .info f member]
  rw [Findings.toList, List.countP_append, List.countP_append, errors, warnings, info,
    Nat.add_zero]

namespace Xml.Element

def attribute? (name : String) : Element → Option String
  | .mk _ attributes _ _ => attributes.lookup name

def children (tag : String) : Element → List Element
  | .mk _ _ _ children => children.filter (isNamed tag)

theorem attribute?_node (name : String) (indent : Indent) (level : Nat) (e : Element) :
    (e.node indent level).attribute? name = e.attribute? name := by
  obtain ⟨own, attributes, text, children⟩ := e
  cases children <;> rw [node] <;> rfl

theorem attribute?_unified (name : String) (e : Element) : e.unified.attribute? name = e.attribute? name := by
  cases e
  rw [unified]
  rfl

end Xml.Element

namespace Report
open Xml (Element Node)

/-- A suite that counts its tests and those of them that fail. The suite is seen through its attributes and
children, so that it may be one that is written or one that is read. -/
structure Tallies {α : Type} (attribute? : String → α → Option String) (children : String → α → List α)
    (suite : α) : Prop where
  tests : attribute? "tests" suite = some (toString (children "testcase" suite).length)
  failures : attribute? "failures" suite = some (toString
    ((children "testcase" suite).countP fun test => !(children "failure" test).isEmpty))

theorem Tallies.of_tests {α : Type} {attribute? : String → α → Option String} {children : String → α → List α}
    {suite : α} {v : Verdict} (wellFormed : v.IsWellFormed) (test : Finding → α)
    (total : attribute? "tests" suite = some (toString v.findings.toList.length))
    (failed : attribute? "failures" suite = some (toString v.findings.errors.length))
    (tests : children "testcase" suite = v.findings.toList.map test)
    (fails : ∀ f, (children "failure" (test f)).isEmpty = (f.severity != .error)) :
    Tallies attribute? children suite := by
  constructor
  · rw [total, tests, List.length_map]
  · have errors : (fun f => !(children "failure" (test f)).isEmpty) = fun f => f.severity == .error := by
      funext f
      rw [fails, bne, Bool.not_not]
    rw [failed, tests, List.countP_map, ← wellFormed.countP_error, Function.comp_def, errors]

theorem tallies_testsuite {v : Verdict} (wellFormed : v.IsWellFormed) :
    Tallies Element.attribute? Element.children (testsuite v) := by
  refine .of_tests wellFormed testcase rfl rfl ?_ fun f => ?_
  · refine List.filter_eq_self.mpr ?_
    simp only [List.forall_mem_map]
    exact fun f _ => rfl
  · by_cases error : f.severity = .error
    · rw [testcase_of_error error, error]
      rfl
    · rw [testcase_of_ne error, bne, beq_eq_false_iff_ne.mpr error]
      rfl

theorem failures_testcase (f : Finding) (indent : Xml.Indent) (level : Nat) :
    (((testcase f).unified.node indent level).children "failure").isEmpty = (f.severity != .error) := by
  have empty : String.ofList (Workspace.unifyLineEnds "".toList) = "" := rfl
  by_cases error : f.severity = .error
  · rw [testcase_of_error error, error]
    simp only [Element.unified, Element.allUnified, empty, Element.children_node]
    rfl
  · rw [testcase_of_ne error, bne, beq_eq_false_iff_ne.mpr error]
    simp only [Element.unified, Element.allUnified, empty, Element.children_node]
    rfl

theorem tallies_node {v : Verdict} (wellFormed : v.IsWellFormed) (indent : Xml.Indent) :
    Tallies Node.attribute? Node.children ((testsuite v).unified.node indent 0) := by
  refine .of_tests wellFormed _ ?_ ?_ (tests_testsuite v indent) fun f => failures_testcase f indent 1
  · rw [Element.attribute?_node, Element.attribute?_unified]
    rfl
  · rw [Element.attribute?_node, Element.attribute?_unified]
    rfl

/-- Every verdict that is made is well-formed, and its reports count its tests and those that fail. -/
theorem junit_tallies [Host] {v : Verdict} (made : v.IsMade) :
    v.IsWellFormed ∧ ∀ indent, ∃ layout suite,
      junit v indent = xmlDeclaration ++ String.ofList (Xml.write layout 0 suite) ∧
      Tallies Element.attribute? Element.children suite ∧
      ∀ root, Xml.read (junit v indent) = some root → Tallies Node.attribute? Node.children root := by
  have wellFormed := Verdict.isWellFormed_of_isMade made
  refine ⟨wellFormed, fun indent => ⟨_, testsuite v, rfl, tallies_testsuite wellFormed, fun root read => ?_⟩⟩
  rw [read_junit] at read
  split at read
  · rw [← Option.some.inj read]
    exact tallies_node wellFormed _
  · cases read

attribute [local instance] Host.shipped in
theorem junit_tallies_severities :
    let rule (severity : Severity) : Rule :=
      { name := severity.word, description := "Letters <only>", severity, pattern := some (.ofText "^[a-z]+$") }
    let auditor : Auditor := { config := { customRules := Severity.all.map rule }, samples := some [] }
    let file : EnvFile := { assignments := [{ key := "PASSWORD", value := "letmein1", line := 1 }] }
    ∃ v, auditor.audit default file = .ok v ∧ v.IsMade ∧ v.IsWellFormed ∧ ∀ indent, ∃ layout suite,
      junit v indent = xmlDeclaration ++ String.ofList (Xml.write layout 0 suite) ∧
      Tallies Element.attribute? Element.children suite ∧
      ∀ root, Xml.read (junit v indent) = some root → Tallies Node.attribute? Node.children root := by
  intro rule auditor file
  have made : auditor.audit default file = .ok (auditor.verdict file (.samples [])) :=
    (auditor.audit_eq_ok default rfl).mpr ⟨.samples [], rfl, rfl⟩
  exact ⟨_, made, .audit made, junit_tallies (.audit made)⟩

end Report

end EnvAudit
