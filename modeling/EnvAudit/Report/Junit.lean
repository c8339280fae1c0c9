import EnvAudit.Binary64.Decimal
import EnvAudit.Report.Xml
import EnvAudit.Verdict.Basic

namespace EnvAudit.Report

open Xml (Element)

def testcase (f : Finding) : Element :=
  let name := if f.variableName == "" then "general" else f.variableName
  let advice :=
    match f.suggestion.filter (· != "") with
    | some suggestion => "\nSuggestion: " ++ suggestion
    | none => ""
  let content :=
    if f.severity == .error then
      Element.mk "failure" [("message", f.message), ("type", f.kind.word)] (f.message ++ advice) []
    else .mk "system-out" [] f.message []
  .mk "testcase" [("classname", "EnvGuard." ++ f.kind.word), ("name", name ++ "_" ++ f.severity.word)]
    "" [content]

def testsuite (v : Verdict) : Element :=
  .mk "testsuite"
    [("name", "EnvGuard"), ("tests", toString v.findings.toList.length),
      ("failures", toString v.findings.errors.length),
      ("time", (v.summary.elapsed.divNat 1000).fixed 3)]
    "" (v.findings.toList.map testcase)

def xmlDeclaration : String := "<?xml version=\"1.0\" encoding=\"UTF-8\"?>\n"

def junit (v : Verdict) (indent : Int) : String :=
  xmlDeclaration ++ String.ofList
    (Xml.write (if indent == 0 then none else some indent.toNat) 0 (testsuite v))

end EnvAudit.Report
