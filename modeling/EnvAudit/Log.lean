import EnvAudit.Document.Basic
import EnvAudit.Text.Case

namespace EnvAudit.Log

inductive Level where
  | debug
  | info
  | warning
  | error
  | critical
  deriving DecidableEq, Repr, Inhabited

namespace Level

def rank : Level → Nat
  | debug => 10
  | info => 20
  | warning => 30
  | error => 40
  | critical => 50

def name : Level → String
  | debug => "DEBUG"
  | info => "INFO"
  | warning => "WARNING"
  | error => "ERROR"
  | critical => "CRITICAL"

def all : List Level := [debug, info, warning, error, critical]

end Level

def rootName : String := "envguard"

def fullName (name : String) : String :=
  if name == rootName || (rootName ++ ".").isPrefixOf name then name else rootName ++ "." ++ name

structure Settings where
  threshold : Nat
  structured : Bool
  deriving DecidableEq, Repr

def otherThresholds : List (String × Nat) := [("NOTSET", 0), ("WARN", 30), ("FATAL", 50)]

def threshold? (name : String) : Option Nat :=
  let name := Text.upper name
  match Level.all.find? (·.name == name) with
  | some level => some level.rank
  | none => otherThresholds.lookup name

def unknownLevel (name : String) : String :=
  "module 'logging' has no attribute " ++ "'" ++ Text.upper name ++ "'"

def Settings.effective (s : Settings) : Nat := if s.threshold == 0 then Level.warning.rank else s.threshold

def thresholdFor (verbose quiet : Bool) : String :=
  if verbose then "DEBUG" else if quiet then "WARNING" else "INFO"

abbrev Context := List (String × Json)

def Context.over (base other : Context) : Context :=
  other.foldl (fun context (name, value) => Json.setMember context name value) base

structure Record where
  level : Level
  logger : String
  message : String
  context : Context := []
  deriving Repr

section
variable [Host]

def display (value : Json) : String :=
  match value.toDocument.display with
  | .ok s => s
  | .error hidden => hidden.message

def Record.line (structured : Bool) (time : String) (r : Record) : String :=
  let head :=
    if structured then time ++ " " ++ r.level.name ++ " " ++ fullName r.logger ++ " " ++ r.message
    else r.level.name ++ ": " ++ r.message
  let pairs := r.context.map fun (name, value) => name ++ "=" ++ display value
  (if pairs.isEmpty then head else head ++ " " ++ " ".intercalate pairs) ++ "\n"

def Settings.write (s : Settings) (time : String) (r : Record) : String :=
  if s.effective ≤ r.level.rank then r.line s.structured time else ""

end

end EnvAudit.Log
