import EnvAudit.Config.Document
import EnvAudit.Schema.Store

namespace EnvAudit.Config

def fileNames : List String :=
  ["envguard.config.json", "envguard.config.yaml", "envguard.config.yml", ".envguardrc",
    ".envguardrc.json", ".envguardrc.yaml", ".envguardrc.yml"]

def searchPaths (w : Workspace) : List Location :=
  fileNames.map w.root.join ++
    match w.configHome.filter (· != "") with
    | some home => [((Location.ofString home).join "envguard").join "config.yaml"]
    | none => []

def readText (file : Location) (text : String) : Except Failure Document := do
  let yaml : Except Failure Document := do
    match ← Yaml.readDocument? text with
    | some document => return document
    | none => throw (.settings (.configMalformed file .yaml))
  if Schema.isYamlFile file then yaml
  else
    match ← Json.readDocument text with
    | .ok document => return document
    | .error error =>
      if Schema.isJsonFile file then throw (.settings (.configMalformed file (.json error))) else yaml

variable [Host]

def ofDocument (file : Location) (d : Document) : Except Failure Config :=
  match d with
  | .null => .ok .default
  | .map _ => (decode d).toExcept fun causes => .settings (.configRefused file causes)
  | _ => .error (.settings (.configNotMapping file))

def readFile (w : Workspace) (file : Location) : Except Failure Document :=
  match w.readText file.toString with
  | .error fault => .error (.settings (.configUnreadable file fault))
  | .ok text => readText file text

def loadFile (w : Workspace) (file : Location) : Except Failure Config := do
  ofDocument file (← readFile w file)

def isThere (w : Workspace) (file : Location) : Except Failure Bool :=
  match w.exists? file.toString with
  | .ok there => .ok there
  | .error error => .error (.path error)

def firstThere (w : Workspace) : List Location → Except Failure (Option Location)
  | [] => .ok none
  | file :: files => do
    if ← isThere w file then return some file else firstThere w files

def locate (w : Workspace) : Option String → Except Failure (Option Location)
  | some path => do
    let file := Location.ofString path
    if ← isThere w file then return some file
    throw (.settings (.configMissing path))
  | none => firstThere w (searchPaths w)

def load (w : Workspace) (path : Option String) : Except Failure Config := do
  match ← locate w path with
  | some file => loadFile w file
  | none => return .default

def sortTexts (texts : List String) : List String := texts.mergeSort fun a b => a ≤ b

def merge (c : Config) (options : Options) : Except Failure Config := do
  let given := options.filter fun (_, value) => match value with
    | .null => false
    | _ => true
  let extra ←
    match extraPatterns ((given.lookup "ignore_patterns").getD .null) with
    | .ok extra => pure extra
    | .error kind => throw (.wrongKind ("Value after * must be an iterable, not " ++ kind))
  let unknown := (given.map (·.1)).filter (!fieldNames.contains ·)
  if !unknown.isEmpty then throw (.settings (.optionsUnknown (sortTexts unknown)))
  let merged ← (decode (c.overlayDocument given extra)).toExcept fun causes =>
    .settings (.optionsRefused causes)
  return { merged with customRules := c.customRules, securityRules := c.securityRules }

def save (w : Workspace) (c : Config) (path : String) : Except Failure (Location × Workspace) :=
  let file := Location.ofString path
  match w.save file (Schema.writeText file c.toDocument) with
  | .ok w => .ok (file, w)
  | .error error => .error (.path error)

end EnvAudit.Config
