import EnvAudit.Catalogue
import EnvAudit.Proofs.Audit.Basis
import EnvAudit.Proofs.Binary64.Characters
import EnvAudit.Proofs.Xml.Document
import EnvAudit.Report.Junit

namespace EnvAudit
open Xml (Element Node)

/-! ## Looking for elements -/

namespace Xml

theorem filter_textNodes (tag : String) (s : List Char) : (textNodes s).filter (Node.isNamed tag) = [] := by
  unfold textNodes
  split <;> rfl

namespace Element

def isNamed (tag : String) : Element → Bool
  | .mk name _ _ _ => name == tag

theorem leadingText_node (indent : Indent) (level : Nat) (name : String) (attributes : List (String × String))
    (text : String) : (node indent level (.mk name attributes text [])).leadingText = text := by
  rw [node]
  simp only [textNodes, String.ofList_toList]
  split
  · rename_i empty
    have none : text = "" := by simpa using empty
    rw [none]
    rfl
  · rfl

theorem isNamed_node (tag : String) (indent : Indent) (level : Nat) (e : Element) :
    (e.node indent level).isNamed tag = e.isNamed tag := by
  obtain ⟨name, attributes, text, children⟩ := e
  cases children <;> rw [node] <;> rfl

theorem isNamed_unified (tag : String) (e : Element) : e.unified.isNamed tag = e.isNamed tag := by
  cases e
  rw [unified]
  rfl

theorem filter_nodes (tag : String) (indent : Indent) (level : Nat) (children : List Element) :
    (nodes indent level children).filter (Node.isNamed tag) =
      (children.filter (isNamed tag)).map (node indent level) := by
  induction children with
  | nil => rfl
  | cons child children ih =>
      rw [nodes, List.filter_append, filter_textNodes, List.nil_append, List.filter_cons, List.filter_cons,
        isNamed_node, ih]
      split <;> rfl

theorem children_node (tag : String) (indent : Indent) (level : Nat) (name : String)
    (attributes : List (String × String)) (children : List Element) :
    (node indent level (.mk name attributes "" children)).children tag =
      (children.filter (isNamed tag)).map (node indent (level + 1)) := by
  cases children with
  | nil =>
      rw [node]
      rfl
  | cons first others =>
      rw [node, Node.children, Node.content, List.filter_append, filter_nodes, filter_textNodes, List.append_nil]

end Element
end Xml

namespace Report

/-! ## Tests -/

/-- What a test tells: the message of its failure, or its output. -/
inductive Told where
  | failure (message : String)
  | output (text : String)
  deriving DecidableEq, Repr

namespace Told

def ofFinding (f : Finding) : Told := if f.severity == .error then failure f.message else output f.message

def unified : Told → Told
  | failure message => failure message
  | output text => output (String.ofList (Workspace.unifyLineEnds text.toList))

def ofNode? (test : Node) : Option Told :=
  match test.children "failure" with
  | failed :: _ => (failed.attribute? "message").map failure
  | [] => (test.children "system-out").head?.map fun printed => output printed.leadingText

end Told

/-- What the tests of a report tell, in order. -/
def tests? (report : String) : Option (List (Option Told)) :=
  (Xml.read report).map fun suite => (suite.children "testcase").map Told.ofNode?

def testName (f : Finding) : String :=
  (if f.variableName == "" then "general" else f.variableName) ++ "_" ++ f.severity.word

def advice (suggestion : Option String) : String :=
  match suggestion.filter (· != "") with
  | some suggestion => "\nSuggestion: " ++ suggestion
  | none => ""

theorem testcase_of_error {f : Finding} (h : f.severity = .error) :
    testcase f = .mk "testcase" [("classname", "EnvGuard." ++ f.kind.word), ("name", testName f)] ""
      [.mk "failure" [("message", f.message), ("type", f.kind.word)] (f.message ++ advice f.suggestion) []] := by
  rw [testcase, h, testName, h]
  rfl

theorem testcase_of_ne {f : Finding} (h : f.severity ≠ .error) :
    testcase f = .mk "testcase" [("classname", "EnvGuard." ++ f.kind.word), ("name", testName f)] ""
      [.mk "system-out" [] f.message []] := by
  rw [testcase, beq_eq_false_iff_ne.mpr h]
  rfl

theorem ofNode?_testcase (f : Finding) (indent : Xml.Indent) (level : Nat) :
    Told.ofNode? ((testcase f).unified.node indent level) = some (Told.ofFinding f).unified := by
  have empty : String.ofList (Workspace.unifyLineEnds "".toList) = "" := rfl
  by_cases error : f.severity = .error
  · rw [testcase_of_error error, Told.ofFinding, error]
    simp only [Element.unified, Element.allUnified, empty, Told.ofNode?, Element.children_node]
    rfl
  · have printed := Element.leadingText_node indent (level + 1) "system-out" []
      (String.ofList (Workspace.unifyLineEnds f.message.toList))
    rw [testcase_of_ne error, Told.ofFinding, beq_eq_false_iff_ne.mpr error]
    simp only [Element.unified, Element.allUnified, empty, Told.ofNode?, Element.children_node]
    exact congrArg (fun text => some (Told.output text)) printed

/-! ## Legal characters -/

def isLegalText (s : String) : Bool := s.toList.all Xml.isLegal

def isReportable (f : Finding) : Bool :=
  isLegalText f.variableName && isLegalText f.message && (f.severity != .error || f.suggestion.all isLegalText)

theorem isLegalText_append (s t : String) : isLegalText (s ++ t) = (isLegalText s && isLegalText t) := by
  simp [isLegalText]

theorem isLegalText_kind (k : FindingKind) : isLegalText k.word = true := by
  cases k <;> decide

theorem isLegalText_severity (s : Severity) : isLegalText s.word = true := by
  cases s <;> decide

theorem isLegalText_of_subset {s : String} (number : s.toList ⊆ Numeral.characters) : isLegalText s = true := by
  have legal : ∀ c ∈ Numeral.characters, Xml.isLegal c = true := Text.forall_mem_of_all (by decide)
  exact List.all_eq_true.mpr fun c member => legal c (number member)

theorem isLegal_mk (name : String) (attributes : List (String × String)) (text : String)
    (children : List Element) : (Element.mk name attributes text children).isLegal =
      (attributes.all (isLegalText ·.2) && isLegalText text && children.all Element.isLegal) := by
  rw [Element.isLegal, Element.areLegal_eq_all]
  rfl

theorem isLegalText_testName (f : Finding) : isLegalText (testName f) = isLegalText f.variableName := by
  have own : isLegalText "_" = true ∧ isLegalText "general" = isLegalText "" := by decide
  rw [testName, isLegalText_append, isLegalText_append, own.1, isLegalText_severity, Bool.and_true, Bool.and_true]
  split
  · rename_i empty
    rw [beq_iff_eq.mp empty, own.2]
  · rfl

theorem isLegalText_advice (suggestion : Option String) :
    isLegalText (advice suggestion) = suggestion.all isLegalText := by
  have own : isLegalText "\nSuggestion: " = true := by decide
  cases suggestion with
  | none => decide
  | some text =>
      by_cases empty : text = ""
      · subst empty
        decide
      · simp [advice, Option.filter, empty, isLegalText_append, own]

theorem isLegal_testcase (f : Finding) : (testcase f).isLegal = isReportable f := by
  have own : isLegalText "EnvGuard." = true ∧ isLegalText "" = true := by decide
  unfold isReportable
  by_cases error : f.severity = .error
  · rw [testcase_of_error error, error]
    simp [isLegal_mk, isLegalText_append, isLegalText_kind, isLegalText_testName, isLegalText_advice, own,
      Bool.and_assoc]
  · rw [testcase_of_ne error]
    simp [isLegal_mk, isLegalText_append, isLegalText_kind, isLegalText_testName, own, error]

theorem isLegal_testsuite (v : Verdict) : (testsuite v).isLegal = v.findings.toList.all isReportable := by
  have own : isLegalText "EnvGuard" = true ∧ isLegalText "" = true := by decide
  have testcases : Element.isLegal ∘ testcase = isReportable := funext isLegal_testcase
  simp only [testsuite, isLegal_mk, List.all_cons, List.all_nil, isLegalText_of_subset (Numeral.toString_subset _),
    isLegalText_of_subset (Binary64.fixed_subset _ _), own,
    List.all_map, testcases, Bool.true_and]

/-! ## Reports -/

theorem isWritable_testcase (f : Finding) : (testcase f).IsWritable := by
  by_cases error : f.severity = .error
  · rw [testcase_of_error error]
    refine .parent (by decide) (by simp; decide) (by simp) ?_
    intro child member
    rw [List.mem_singleton.mp member]
    exact .leaf _ (by decide) (by simp; decide) (by simp)
  · rw [testcase_of_ne error]
    refine .parent (by decide) (by simp; decide) (by simp) ?_
    intro child member
    rw [List.mem_singleton.mp member]
    exact .leaf _ (by decide) (by simp) (by simp)

theorem isWritable_testsuite (v : Verdict) : (testsuite v).IsWritable := by
  unfold testsuite
  cases found : v.findings.toList.map testcase with
  | nil => exact .leaf _ (by decide) (by simp; decide) (by simp)
  | cons first others =>
      refine .parent (by decide) (by simp; decide) (by simp) ?_
      rw [← found, List.forall_mem_map]
      exact fun f _ => isWritable_testcase f

theorem read_junit (v : Verdict) (indent : Int) :
    Xml.read (junit v indent) = if v.findings.toList.all isReportable
      then some ((testsuite v).unified.node (if indent == 0 then none else some indent.toNat) 0) else none := by
  have shape : junit v indent = String.ofList (Xml.declaration ++
      '\n' :: Xml.write (if indent == 0 then none else some indent.toNat) 0 (testsuite v)) := by
    have start : xmlDeclaration = String.ofList (Xml.declaration ++ ['\n']) := rfl
    rw [junit, start, ← String.ofList_append, List.append_assoc]
    rfl
  rw [shape, Xml.read_document (isWritable_testsuite v), isLegal_testsuite]

theorem tests_testsuite (v : Verdict) (indent : Xml.Indent) :
    ((testsuite v).unified.node indent 0).children "testcase" =
      v.findings.toList.map fun f => (testcase f).unified.node indent 1 := by
  have empty : String.ofList (Workspace.unifyLineEnds "".toList) = "" := rfl
  have named : ∀ e ∈ (v.findings.toList.map testcase).map Element.unified, e.isNamed "testcase" = true := by
    simp only [List.map_map, List.forall_mem_map]
    intro f _
    exact Element.isNamed_unified "testcase" (testcase f)
  rw [testsuite, Element.unified, Element.allUnified_eq_map, empty, Element.children_node,
    List.filter_eq_self.mpr named, List.map_map, List.map_map]
  rfl

theorem tests?_junit (v : Verdict) (indent : Int) :
    tests? (junit v indent) = if v.findings.toList.all isReportable
      then some (v.findings.toList.map fun f => some (Told.ofFinding f).unified) else none := by
  rw [tests?, read_junit]
  split
  · rw [Option.map_some, tests_testsuite, List.map_map]
    simp only [Function.comp_def, ofNode?_testcase]
  · rfl

theorem unified_ofFinding_iff {f : Finding} :
    (Told.ofFinding f).unified = Told.ofFinding f ↔ (f.severity ≠ .error → '\r' ∉ f.message.toList) := by
  unfold Told.ofFinding
  by_cases error : f.severity = .error
  · simp [error, Told.unified]
  · simp only [beq_eq_false_iff_ne.mpr error, Bool.false_eq_true, if_false, Told.unified, Told.output.injEq,
      ← Workspace.unifyLineEnds_eq_self_iff, ← String.toList_inj, String.toList_ofList]
    simp [error]

theorem tests?_junit_iff (v : Verdict) (indent : Int) :
    tests? (junit v indent) = some (v.findings.toList.map fun f => some (Told.ofFinding f)) ↔
      ∀ f ∈ v.findings.toList, isReportable f = true ∧ (f.severity ≠ .error → '\r' ∉ f.message.toList) := by
  rw [tests?_junit, forall₂_and, ← List.all_eq_true]
  split
  · rename_i legal
    simp only [Option.some.injEq, List.map_inj_left, unified_ofFinding_iff, legal, true_and]
  · rename_i illegal
    simp [illegal]

/-- A report can be read exactly if all that is written of the findings are legal characters, and then has a test
for every finding, in order, with its message; but a message that is not of a failure keeps no carriage return. -/
theorem junit_read_iff (v : Verdict) (indent : Int) :
    ((Xml.read (junit v indent)).isSome ↔ ∀ f ∈ v.findings.toList, isReportable f = true) ∧
      (tests? (junit v indent) = some (v.findings.toList.map fun f => some (Told.ofFinding f)) ↔
        ∀ f ∈ v.findings.toList, isReportable f = true ∧ (f.severity ≠ .error → '\r' ∉ f.message.toList)) := by
  refine ⟨?_, tests?_junit_iff v indent⟩
  rw [read_junit, ← List.all_eq_true]
  split <;> simp_all

attribute [local instance] Host.shipped in
theorem junit_control : ∃ v, ({ samples := some [] } : Auditor).auditText default "\x01" = .ok v ∧
    Xml.read (junit v 2) = none := by
  refine ⟨_, rfl, ?_⟩
  rw [read_junit]
  decide +kernel

attribute [local instance] Host.shipped in
/-- A carriage return in a sample stands in the text of a note, and is read as a line feed. -/
theorem junit_return :
    let auditor : Auditor := { samples := some [{ key := "K", value := "<a\rb>", line := 1 }] }
    ∃ v, auditor.auditText default "K=x" = .ok v ∧
      tests? (junit v 0) ≠ some (v.findings.toList.map fun f => some (Told.ofFinding f)) := by
  intro auditor
  let sample : Assignment := { key := "K", value := "<a\rb>", line := 1 }
  have made : auditor.auditText default "K=x" = .ok (auditor.verdict (EnvFile.parse "K=x") (.samples [sample])) :=
    (auditor.audit_eq_ok default rfl).mpr ⟨_, rfl, rfl⟩
  refine ⟨_, made, fun same => ?_⟩
  rw [tests?_junit_iff] at same
  have noted : Reference.standInNote { key := "K", value := "x", line := 1 } sample ∈
      (Reference.verdict (Assignment.effective [sample]) []
        (Assignment.effective (EnvFile.parse "K=x").assignments)).findings.info := by
    decide +kernel
  have reported : Reference.standInNote { key := "K", value := "x", line := 1 } sample ∈
      (auditor.verdict (EnvFile.parse "K=x") (.samples [sample])).findings.toList := by
    apply List.mem_append_right
    apply List.mem_append_left
    exact noted
  exact (same _ reported).2 (by decide) (by decide)

end Report

end EnvAudit
