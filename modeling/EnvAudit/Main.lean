import EnvAudit.Catalogue
import EnvAudit.CommandLine.Overview
import EnvAudit.Report.Dialect
import Std.Time.DateTime

namespace EnvAudit.Main

open CommandLine

def readEntry (path : String) : IO (Option Entry) := do
  let file := (← IO.currentDir) / path
  if ← file.isDir then return some .directory
  match ← (IO.FS.readBinFile file).toBaseIO with
  | .ok bytes => return some (.file bytes.toList)
  | .error _ => return none

def collectEntry (w : Workspace) (path : String) : IO Workspace := do
  match w.slot path with
  | .ok (place, none) =>
    match ← readEntry path with
    | some entry => return w.setEntry place entry
    | none => return w
  | _ => return w

def collect (w : Workspace) (path : String) : IO Workspace := do
  let file := Location.ofString path
  let ways := (List.range (file.parts.length + 1)).map fun n => { file with parts := file.parts.take n }
  ways.foldlM (fun w way => collectEntry w way.toString) w

def namedPaths (arg : String) : List String :=
  let behind := (Text.cutFirst '=' arg.toList).2
  [arg, (arg.drop 2).copy] ++ (behind.map String.ofList).toList

def configured [Host] (config : Config) : List String :=
  config.envFile :: config.schemaFile.toList ++ [config.exampleFile.getD Auditor.defaultExampleFile]

def collectAll [Host] (w : Workspace) (args : List String) : IO Workspace := do
  let named := args.flatMap namedPaths
  let starters := [Starter.Kind.schema, .config, .example].flatMap fun kind =>
    ("." :: named).map fun dir => ((Location.ofString dir).join kind.fileName).toString
  let w ← (named ++ (Config.searchPaths w).map (·.toString) ++ starters).foldlM collect w
  let configs := (none :: named.map some).filterMap fun path => (Config.load w path).toOption
  (configs.flatMap configured).foldlM collect w

def pathOf (place : List String) : String :=
  match place with
  | [] => "."
  | first :: rest =>
    if first == Workspace.rootName then first ++ "/".intercalate rest else "/".intercalate place

def writeChanges (before after : Workspace) : IO Unit :=
  after.entries.forM fun (place, entry) => do
    if before.entryAt? place != some entry then
      match entry with
      | .directory => IO.FS.createDirAll (pathOf place)
      | .file bytes => IO.FS.writeBinFile (pathOf place) (ByteArray.mk bytes.toArray)

def padded (width : Nat) (n : Nat) : String :=
  let digits := toString n
  String.ofList (List.replicate (width - digits.length) '0') ++ digits

def stamp (between fraction : String) (places : Nat) (t : Std.Time.Timestamp) : String :=
  let d := Std.Time.DateTime.ofTimestamp t .UTC
  let date := padded 4 d.year.toInt.toNat ++ "-" ++ padded 2 d.month.val.toNat ++ "-" ++
    padded 2 d.day.val.toNat
  let time := padded 2 d.hour.val.toNat ++ ":" ++ padded 2 d.minute.val.toNat ++ ":" ++
    padded 2 d.second.val.toNat
  date ++ between ++ time ++ fraction ++ padded places (d.nanosecond.val.toNat / Nat.pow 10 (9 - places))

def run [Host] [Markup.Dialect] (args : List String) : IO UInt32 := do
  let here ← IO.currentDir
  let configHome ← IO.getEnv "XDG_CONFIG_HOME"
  let w ← collectAll { root := Location.ofString here.toString, configHome } args
  let now ← Std.Time.Timestamp.now
  let clock : Clock := { logTime := stamp " " "," 3 now, reportTime := stamp "T" "." 6 now ++ "+00:00" }
  let start ← IO.monoNanosNow
  let rehearsal := CommandLine.run clock w args
  let ended ← if rehearsal.exit.number < 256 then IO.monoNanosNow else pure start
  let out := CommandLine.run { clock with elapsed := .ofRatio false (ended - start) 1000000 } w args
  writeChanges w out.workspace
  IO.print out.stdout
  IO.eprint out.stderr
  match out.exit with
  | .help _ => IO.print overview
  | .usage => IO.eprint usageHint
  | .failed failure => IO.eprintln failure.message
  | .code _ => pure ()
  return UInt32.ofNat out.exit.number

end EnvAudit.Main

def main (args : List String) : IO UInt32 :=
  letI : EnvAudit.Host := .shipped
  letI : EnvAudit.Markup.Dialect := .terminal
  EnvAudit.Main.run args
