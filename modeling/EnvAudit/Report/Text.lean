import EnvAudit.Binary64.Decimal
import EnvAudit.Numeral
import EnvAudit.Report.Markup
import EnvAudit.Verdict.Basic

namespace EnvAudit.Report

def styled (style text : String) : String := "[" ++ style ++ "]" ++ text ++ "[/" ++ style ++ "]"

def styledCount (style : String) (n : Int) : String := styled style (Numeral.render n)

def findingLines (style : String) (f : Finding) : String :=
  let name := if f.variableName == "" then "" else styled "cyan" (Markup.escape f.variableName)
  let place :=
    match f.line.filter (· != 0) with
    | some line => styled "dim" (":" ++ Numeral.render line)
    | none => ""
  let advice :=
    match f.suggestion.filter (· != "") with
    | some suggestion => "\n    [dim]Suggestion: " ++ Markup.escape suggestion ++ "[/dim]"
    | none => ""
  "  " ++ name ++ place ++ ": " ++ styled style (Markup.escape f.message) ++ advice

def sectionLines (title style : String) (findings : List Finding) : List String :=
  if findings.isEmpty then []
  else
    let bold := "bold " ++ style
    styled bold (title ++ " (" ++ toString findings.length ++ "):") ::
      findings.map (findingLines style) ++ [""]

def countLine (label style : String) (n : Int) : List String :=
  if 0 < n then ["  " ++ label ++ ": " ++ styledCount style n] else []

def summaryLines (s : Summary) : List String :=
  ["[bold]SUMMARY:[/bold]", "  Total variables: " ++ styledCount "cyan" s.assigned,
    "  Required variables: " ++ styledCount "cyan" s.required] ++
    countLine "Missing variables" "red" s.missing ++ countLine "Unused variables" "yellow" s.unused ++
    countLine "Security issues" "red" s.securityIssues ++
    ["  Validation time: " ++ styled "dim" (s.elapsed.fixed 2 ++ "ms")]

def lines (v : Verdict) : List String :=
  let outcome := if v.isValid then styled "bold green" "PASSED" else styled "bold red" "FAILED"
  [outcome ++ " - Environment validation completed", ""] ++
    sectionLines "ERRORS" "red" v.findings.errors ++
    sectionLines "WARNINGS" "yellow" v.findings.warnings ++
    sectionLines "INFO" "blue" v.findings.info ++ summaryLines v.summary

variable [Markup.Dialect]

def printLine (colour : Bool) (line : String) : Except Markup.Fault String :=
  (Markup.render line).map (Markup.print colour)

def dropFinalBreaks (s : List Char) : List Char := (s.reverse.dropWhile (· == '\n')).reverse

def text (v : Verdict) (colour : Bool) : Except Markup.Fault String :=
  ((lines v).mapM (printLine colour)).map fun lines =>
    String.ofList (dropFinalBreaks ("\n".intercalate lines).toList)

end EnvAudit.Report
