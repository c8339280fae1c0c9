import EnvAudit.CommandLine.Command

namespace EnvAudit.CommandLine

def Spec.form (spec : Spec) : String :=
  let short := match spec.short with
    | some c => "-" ++ String.singleton c ++ ", "
    | none => ""
  short ++ "--" ++ spec.long ++ if spec.takesValue then " VALUE" else ""

def commands : List (String × String × List Spec) :=
  [("validate", "Check an env file and print a text, JSON or JUnit report", validateSpecs),
    ("check", "Same checks, exit code only", checkSpecs),
    ("init", "Write a starter schema, config and .env.example", initSpecs),
    ("version", "Print the installed version", [])]

def commandLines (name purpose : String) (specs : List Spec) : List String :=
  ("  " ++ name ++ ": " ++ purpose) :: specs.map fun spec => "      " ++ spec.form

def overview : String :=
  String.join <| List.map (· ++ "\n") <|
    ["Usage: envguard [OPTIONS] COMMAND [ARGS]...", "", "Options:"] ++
    (globalSpecs ++ [helpSwitch]).map (fun spec => "      " ++ spec.form) ++ ["", "Commands:"] ++
    commands.flatMap fun (name, purpose, specs) => commandLines name purpose specs

def usageHint : String :=
  "Usage: envguard [OPTIONS] COMMAND [ARGS]...\nTry 'envguard --help' for help.\n"

end EnvAudit.CommandLine
