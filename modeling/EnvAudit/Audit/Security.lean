import EnvAudit.EnvFile.Basic
import EnvAudit.Schema.Basic
import EnvAudit.Text.Case
import EnvAudit.Value.Shape
import EnvAudit.Value.Url

namespace EnvAudit.Security

def builtinRules [Host] : List SecurityRule :=
  [{ name := "hardcoded-password"
     description := "Hardcoded password detected"
     pattern := .ofText "(?i)password.*=.*(admin|password|123456|qwerty|letmein)"
     severity := .error
     suggestion := some "Use a strong, unique password and store it securely" },
    { name := "hardcoded-api-key"
      description := "Potential hardcoded API key detected"
      pattern := .ofText "(?i)api[_-]?key.*=.*[a-zA-Z0-9]\x7b20,\x7d"
      severity := .warning
      suggestion := some "Ensure API keys are not committed to version control" },
    { name := "hardcoded-secret"
      description := "Potential hardcoded secret detected"
      pattern := .ofText "(?i)secret.*=.*[a-zA-Z0-9]\x7b16,\x7d"
      severity := .warning
      suggestion := some "Ensure secrets are not committed to version control" },
    { name := "weak-jwt-secret"
      description := "Weak JWT secret detected"
      pattern := .ofText "(?i)jwt[_-]?secret.*=.*(secret|jwt|token|key)\\Z"
      severity := .error
      suggestion := some "Use a strong, randomly generated JWT secret" },
    { name := "default-database-credentials"
      description := "Default database credentials detected"
      pattern := .ofText
        "(?i)(db|database)[_-]?(user|username|password).*=.*(root|admin|user|password)\\Z"
      severity := .error
      suggestion := some "Use strong, unique database credentials" }]

def warning (kind : FindingKind) (a : Assignment) (message suggestion : String) : Finding where
  kind
  variableName := a.key
  message
  line := some a.line
  suggestion := some suggestion
  severity := .warning

def note (a : Assignment) (message : String) : Finding where
  kind := .info
  variableName := a.key
  message
  line := some a.line
  severity := .info

def ruleFinding [Host] (rule : SecurityRule) (a : Assignment) : Finding :=
  if rule.severity == .info then note a rule.description
  else
    { kind := .securityRisk
      variableName := a.key
      message := rule.description
      line := some a.line
      suggestion := rule.suggestion
      severity := rule.severity }

def checkRules [Host] (rules : List SecurityRule) (a : Assignment) : List Finding :=
  (rules.filter (·.pattern.search a.text)).map fun rule => ruleFinding rule a

def secretKeyParts : List String :=
  ["secret", "key", "token", "password", "pass", "pwd", "auth", "credential", "private"]

def vitalKeyParts : List String := ["secret", "key", "token", "password", "auth"]

def occursIn (part : List Char) : List Char → Bool
  | [] => part.isEmpty
  | c :: rest => part.isPrefixOf (c :: rest) || occursIn part rest

def keyHas (parts : List String) (key : String) : Bool :=
  let low := (Text.lower key).toList
  parts.any fun part => occursIn part.toList low

def secretShapeWarning (a : Assignment) (shape : String) : Finding :=
  warning .securityRisk a ("Potential " ++ shape ++ " detected in sensitive variable")
    "Ensure this secret is not committed to version control"

def weakSecretError (a : Assignment) : Finding where
  kind := .securityRisk
  variableName := a.key
  message := "Weak or default secret detected"
  line := some a.line
  suggestion := some "Use a strong, randomly generated secret"
  severity := .error

def checkSecret (a : Assignment) : List Finding :=
  if keyHas secretKeyParts a.key then
    ((Value.secretShape? a.value).map (secretShapeWarning a)).toList ++
      (if Value.isWeakSecret a.value then [weakSecretError a] else [])
  else []

structure Sign where
  pattern : Pattern.Plain
  message : String
  isNote : Bool := false

def signs : List Sign :=
  [⟨.ofText "(?i)localhost", "Localhost URL detected", false⟩,
    ⟨.ofText "127\\.0\\.0\\.1", "Localhost IP detected", false⟩,
    ⟨.ofText "(?i)(dev|test|staging|debug)", "Development/test environment indicator", false⟩,
    ⟨.ofText "(?i)^(true|false)\\Z", "Boolean flag detected", true⟩]

def signFinding (a : Assignment) (sign : Sign) : Finding :=
  if sign.isNote then note a sign.message
  else warning .weakPattern a sign.message "Ensure this is appropriate for production"

def checkSigns (a : Assignment) : List Finding :=
  (signs.filter (·.pattern.search a.value)).map (signFinding a) ++
    (if keyHas vitalKeyParts a.key && Value.isPlaceholder a.value then
      [warning .weakPattern a "Placeholder value detected in sensitive variable"
        "Replace with actual secure value"]
    else [])

def sensitiveData : List (Pattern.Plain × String) :=
  [(.ofText "\\b\\d\x7b4\x7d[-\\s]?\\d\x7b4\x7d[-\\s]?\\d\x7b4\x7d[-\\s]?\\d\x7b4\x7d\\b",
      "Credit card number pattern"),
    (.ofText "\\b\\d\x7b3\x7d-\\d\x7b2\x7d-\\d\x7b4\x7d\\b", "SSN pattern"),
    (.ofText "[a-zA-Z0-9._%+-]+@[a-zA-Z0-9.-]+\\.[a-zA-Z]\x7b2,\x7d", "Email address"),
    (.ofText "\\b\\d\x7b1,3\x7d\\.\\d\x7b1,3\x7d\\.\\d\x7b1,3\x7d\\.\\d\x7b1,3\x7d\\b", "IP address")]

def checkData (a : Assignment) : List Finding :=
  (sensitiveData.filter (·.1.search a.value)).map (fun (_, name) =>
    warning .securityRisk a ("Potential " ++ name ++ " detected")
      "Verify this sensitive data should be in environment variables") ++
    (if Value.holdsCredentials a.value then
      [warning .securityRisk a "URL contains embedded credentials" "Store credentials separately from URLs"]
    else [])

variable [Host]

def check (rules : List SecurityRule) (a : Assignment) : List Finding :=
  checkRules rules a ++ checkSecret a ++ checkSigns a ++ checkData a

def analyze (rules : List SecurityRule) (assignments : List Assignment) : Findings :=
  .ofList (assignments.flatMap (check (builtinRules ++ rules)))

end EnvAudit.Security
