import EnvAudit.Audit.Trace
import EnvAudit.CommandLine.Arguments
import EnvAudit.CommandLine.Breakdown
import EnvAudit.Report.Basic
import EnvAudit.Starter

/-!
# Commands

The commands of the command line, as functions from arguments and a workspace to what is printed, how the
command exits, and the workspace behind it. A failure that has a code is reported, and the command exits
with 2; any other failure ends it at once.
-/

namespace EnvAudit.CommandLine

def version : String := "0.1.0"

/-- What a command knows beside its arguments: the time at which a record or a report is made, and how long
the audit takes in milliseconds. -/
structure Clock where
  logTime : String
  reportTime : String
  elapsed : Binary64 := .zero

inductive Exit where
  | code (n : Nat)
  | failed (failure : Failure)
  | help (n : Nat)
  | usage

structure Outcome where
  exit : Exit := .code 0
  stdout : String := ""
  stderr : String := ""
  workspace : Workspace

def exitOk : Nat := 0

def exitInvalid : Nat := 1

def exitError : Nat := 2

def Exit.number : Exit → Nat
  | code n => n
  | failed failure => failure.status
  | help n => n
  | usage => exitError

namespace Outcome

def print (out : Outcome) (s : String) : Outcome := { out with stdout := out.stdout ++ s }

def report (out : Outcome) (s : String) : Outcome := { out with stderr := out.stderr ++ s }

def exitWith (out : Outcome) (exit : Exit) : Outcome := { out with exit }

section
variable [Markup.Dialect]

def markedUp (out : Outcome) (put : Outcome → String → Outcome) (line : String)
    (next : Outcome → Outcome) : Outcome :=
  match (Markup.render line).map (Markup.print false) with
  | .ok s => next (put out (s ++ "\n"))
  | .error fault => out.exitWith (.failed (.markup fault.message))

def fail (out : Outcome) (failure : Failure) : Outcome :=
  match failure.code? with
  | none => out.exitWith (.failed failure)
  | some _ =>
    out.markedUp report ("[red]Error:[/red] " ++ Markup.escape failure.message) (·.exitWith (.code exitError))

end

def log [Host] (out : Outcome) (settings : Log.Settings) (clock : Clock) (records : List Log.Record) : Outcome :=
  out.report (String.join (records.map (settings.write clock.logTime)))

end Outcome

/-! ## Options -/

def patternItems (value : String) : List String :=
  ((Text.splitAll ',' value.toList).map Text.trim).filter (!·.isEmpty) |>.map String.ofList

def parsePatterns (value : Option String) : Option (List String) :=
  match (value.map patternItems).getD [] with
  | [] => none
  | items => some items

def severityStyle (word : String) : String :=
  ([("error", "red"), ("warning", "yellow"), ("info", "blue")].lookup (Text.lower word)).getD "white"

def checkSpecs : List Spec :=
  [⟨"env-file", some 'e', true⟩, ⟨"schema-file", some 's', true⟩, ⟨"example-file", some 'x', true⟩,
    ⟨"config-file", some 'c', true⟩, ⟨"mode", some 'm', true⟩, .switch "strict"]

def validateSpecs : List Spec :=
  checkSpecs ++ [⟨"format", some 'f', true⟩, ⟨"output", some 'o', true⟩, .switch "exit-on-error",
    .switch "no-exit-on-error", ⟨"ignore-patterns", none, true⟩]

def initSpecs : List Spec :=
  [.switch "schema", .switch "config", .switch "example", ⟨"dir", some 'd', true⟩, .switch "force"]

def globalSpecs : List Spec :=
  [.switch "verbose" (some 'v'), .switch "quiet" (some 'q'), .switch "log-structured"]

def exitOnError (a : Arguments) : Json :=
  match a.given.find? fun (name, _) => name == "exit-on-error" || name == "no-exit-on-error" with
  | some (name, _) => .bool (name == "exit-on-error")
  | none => .null

def overrides (a : Arguments) : Config.Options :=
  let textOf := fun name => Json.optional (a.value? name)
  [("env_file", textOf "env-file"), ("schema_file", textOf "schema-file"),
    ("example_file", textOf "example-file"), ("mode", textOf "mode"), ("output_format", textOf "format"),
    ("strict", if a.isGiven "strict" then .bool true else .null), ("exit_on_error", exitOnError a),
    ("ignore_patterns", Json.orNull Json.strings (parsePatterns (a.value? "ignore-patterns")))]

/-! ## Audits -/

section
variable [Host]

def configPath (a : Arguments) : Option String :=
  (a.value? "config-file").map fun path => (Location.ofString path).toString

def loadConfig (a : Arguments) (w : Workspace) : Except Failure Config := do
  (← Config.load w (configPath a)).merge (overrides a)

def auditorOf (config : Config) : Auditor := { config }

def checkCode (config : Config) (v : Verdict) : Nat :=
  if v.passes config.strict then exitOk else exitInvalid

def validateCode (config : Config) (v : Verdict) : Nat :=
  if (config.exitOnError && !v.isValid) || (config.strict && !v.findings.warnings.isEmpty) then exitInvalid
  else exitOk

variable [Markup.Dialect]

def check (settings : Log.Settings) (clock : Clock) (a : Arguments) (out : Outcome) : Outcome :=
  let w := out.workspace
  let out := out.log settings clock (Config.loadTrace w (configPath a))
  match loadConfig a w with
  | .error failure => out.fail failure
  | .ok config =>
    let auditor := auditorOf config
    let out := out.log settings clock (auditor.fileTrace w)
    match auditor.auditFile w with
    | .error failure => out.fail failure
    | .ok verdict => out.exitWith (.code (checkCode config verdict))

def finish (config : Config) (verdict : Verdict) (out : Outcome) : Outcome :=
  let out := if config.verbose then out.report (breakdown verdict) else out
  out.exitWith (.code (validateCode config verdict))

def deliver (clock : Clock) (a : Arguments) (config : Config) (verdict : Verdict) (out : Outcome) :
    Outcome :=
  match Report.render verdict config.format { colour := false } clock.reportTime with
  | .error failure => out.exitWith (.failed failure)
  | .ok report =>
    match a.value? "output" with
    | none => finish config verdict (out.print (report ++ "\n"))
    | some path =>
      match Report.save out.workspace report (some path) with
      | .error failure => out.fail failure
      | .ok workspace =>
        { out with workspace }.markedUp .report
          ("Report written to " ++ (Location.ofString path).toString) (finish config verdict)

def audit (settings : Log.Settings) (clock : Clock) (a : Arguments) (config : Config) (out : Outcome) :
    Outcome :=
  let auditor := auditorOf config
  let out := out.log settings clock (auditor.fileTrace out.workspace)
  match auditor.auditFile out.workspace with
  | .error failure => out.fail failure
  | .ok verdict =>
    deliver clock a config
      { verdict with summary := { verdict.summary with elapsed := clock.elapsed } } out

def validate (settings : Log.Settings) (clock : Clock) (a : Arguments) (out : Outcome) : Outcome :=
  let w := out.workspace
  let out := out.log settings clock (Config.loadTrace w (configPath a))
  match loadConfig a w with
  | .error failure => out.fail failure
  | .ok config =>
    if config.verbose then
      out.markedUp .report ("[dim]Validating: " ++ config.envFile ++ "[/dim]") fun out =>
        audit settings clock a config (out.report ("Format: " ++ config.format.word ++ "\n"))
    else audit settings clock a config out

end

/-! ## Starter files -/

def starterKinds (a : Arguments) : List Starter.Kind :=
  let asked := (if a.isGiven "schema" then [Starter.Kind.schema] else []) ++
    (if a.isGiven "config" then [Starter.Kind.config] else []) ++
    (if a.isGiven "example" then [Starter.Kind.example] else [])
  if asked.isEmpty then [.schema, .config, .example] else asked

section
variable [Markup.Dialect]

def writeStarters (directory : Location) (force : Bool) : List Starter.Kind → Outcome → Outcome
  | [], out => out
  | kind :: kinds, out =>
    match Starter.create out.workspace kind (directory.join kind.fileName).toString force with
    | .error failure => out.fail failure
    | .ok (file, workspace) =>
      { out with workspace }.markedUp .print ("[green]Created[/green] " ++ file.toString)
        (writeStarters directory force kinds)

def init (a : Arguments) (out : Outcome) : Outcome :=
  writeStarters (Location.ofString ((a.value? "dir").getD ".")) (a.isGiven "force") (starterKinds a) out

end

/-! ## The command line -/

def runWith (specs : List Spec) (args : List String) (run : Arguments → Outcome → Outcome) (out : Outcome) :
    Outcome :=
  match Arguments.read specs true args with
  | none => out.exitWith .usage
  | some a =>
    if a.isGiven "help" then out.exitWith (.help 0)
    else if a.left.isEmpty then run a out
    else out.exitWith .usage

def noCommand (args : List String) (out : Outcome) : Outcome :=
  out.exitWith <|
    match Arguments.read globalSpecs false args with
    | some a => if a.isGiven "help" then .help 0 else .usage
    | none => .usage

def runCommand [Host] [Markup.Dialect] (settings : Log.Settings) (clock : Clock) (name : String) (args : List String)
    (out : Outcome) : Outcome :=
  match name with
  | "validate" => runWith validateSpecs args (validate settings clock) out
  | "check" => runWith checkSpecs args (check settings clock) out
  | "init" => runWith initSpecs args init out
  | "version" => runWith [] args (fun _ out => out.print ("envguard version " ++ version ++ "\n")) out
  | _ => noCommand (name :: args) out

def logSettings (a : Arguments) : Log.Settings where
  threshold :=
    (Log.threshold? (Log.thresholdFor (a.isGiven "verbose") (a.isGiven "quiet"))).getD 0
  structured := a.isGiven "log-structured"

def run [Host] [Markup.Dialect] (clock : Clock) (w : Workspace) (args : List String) : Outcome :=
  let out : Outcome := { workspace := w }
  if args.isEmpty then out.exitWith (.help exitError)
  else
    match Arguments.read globalSpecs false args with
    | none => out.exitWith .usage
    | some a =>
      if a.isGiven "help" then out.exitWith (.help 0)
      else
        match a.left with
        | [] => out.exitWith .usage
        | name :: args => runCommand (logSettings a) clock name args out

end EnvAudit.CommandLine
