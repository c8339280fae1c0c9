import EnvAudit.Binary64.Basic
import EnvAudit.EnvFile.Basic
import EnvAudit.Finding.Basic

namespace EnvAudit

structure Summary where
  assigned : Int := 0
  required : Int := 0
  missing : Int := 0
  unused : Int := 0
  securityIssues : Int := 0
  elapsed : Binary64 := Binary64.zero
  deriving DecidableEq, Repr, Inhabited

def Summary.merge (a b : Summary) : Summary where
  assigned := max a.assigned b.assigned
  required := max a.required b.required
  missing := max a.missing b.missing
  unused := max a.unused b.unused
  securityIssues := a.securityIssues + b.securityIssues
  elapsed := a.elapsed.max b.elapsed

structure Verdict where
  isValid : Bool
  findings : Findings := {}
  summary : Summary := {}
  deriving DecidableEq, Repr, Inhabited

namespace Verdict

def ofFindings (findings : Findings) (summary : Summary) : Verdict where
  isValid := findings.errors.isEmpty
  findings
  summary

def passes (strict : Bool) (v : Verdict) : Bool :=
  v.isValid && (!strict || v.findings.warnings.isEmpty)

/-- One verdict from two: the findings of both, each once, and the larger counts. -/
def merge (v w : Verdict) : Verdict :=
  ofFindings (v.findings ++ w.findings).distinct (v.summary.merge w.summary)

def ofKind (kind : FindingKind) (v : Verdict) : List Finding := v.findings.toList.filter (·.kind == kind)

def byKind (v : Verdict) : List (FindingKind × List Finding) :=
  (FindingKind.all.map fun kind => (kind, v.ofKind kind)).filter (!·.2.isEmpty)

def malformedFinding (malformed : MalformedLine) : Finding where
  kind := .invalidFormat
  message := MalformedLine.message ++ ": " ++ malformed.text
  line := some malformed.line
  severity := .error

def ofMalformed (lines : List MalformedLine) (elapsed : Binary64) : Verdict :=
  ofFindings { errors := lines.map malformedFinding } { elapsed }

end Verdict

end EnvAudit
