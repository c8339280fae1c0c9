import EnvAudit.Host
import EnvAudit.Text.Quoted
import EnvAudit.Text.Split
import EnvAudit.Value.Number
import EnvAudit.Value.Shape
import EnvAudit.Value.Url

/-!
# The usual host

What the program runs on where nothing else is installed: its own checks of values can be imported, and digits
and Latin letters have names.
-/

namespace EnvAudit.Host

def packages : List String :=
  ["envguard", "envguard.cli", "envguard.core", "envguard.models", "envguard.renderers",
    "envguard.security", "envguard.utils"]

def shapesModule : String := "envguard.core.patterns"

def securityModule : String := "envguard.security.analyzer"

def modules : List String := [shapesModule, securityModule]

def check (test : String → Bool) : Member := .check (.ofTest test)

def catalogue : List (String × String × Member) :=
  [(shapesModule, "is_placeholder", check Value.isPlaceholder),
    (shapesModule, "parse_url", check Value.isUrl),
    (shapesModule, "looks_like_url", check Value.isUrl),
    (shapesModule, "url_has_credentials", check Value.holdsCredentials),
    (shapesModule, "looks_like_number", check Value.isNumber),
    (shapesModule, "looks_like_boolean", check Value.isBoolean),
    (shapesModule, "looks_like_email", check Value.isEmail),
    (shapesModule, "looks_like_json", check Value.isJson),
    (shapesModule, "EMAIL_RE", .value),
    (shapesModule, "EMAIL_RE.match", check Value.isEmail),
    (shapesModule, "EMAIL_RE.search", check Value.isEmail),
    (shapesModule, "EMAIL_RE.fullmatch", check Value.isEmail),
    (shapesModule, "BOOLEAN_WORDS", .value),
    (shapesModule, "PLACEHOLDER_PATTERNS", .value),
    (securityModule, "is_weak_secret", check Value.isWeakSecret),
    (securityModule, "is_placeholder", check Value.isPlaceholder),
    (securityModule, "url_has_credentials", check Value.holdsCredentials),
    (securityModule, "WEAK_SECRETS", .value),
    (securityModule, "MIN_SECRET_LENGTH", .value)]

def memberOf (moduleName : String) (path : List String) : Member :=
  match catalogue.find? fun entry => entry.1 == moduleName && entry.2.1 == ".".intercalate path with
  | some (_, _, member) => member
  | none => .absent

def missingFrom (parent : Option String) : List String → Option (String × Option String)
  | [] => none
  | part :: parts =>
    let name := match parent with
      | some parent => parent ++ "." ++ part
      | none => part
    if packages.contains name then missingFrom (some name) parts
    else if modules.contains name then
      match parts with
      | [] => none
      | next :: _ => some (name ++ "." ++ next, some name)
    else some (name, none)

def importShipped (moduleName : String) : Imported :=
  match missingFrom none ((Text.splitAll '.' moduleName.toList).map String.ofList) with
  | some (missing, parent) =>
    .missing ("No module named " ++ Text.quoted missing ++
      match parent with
      | some parent => "; " ++ Text.quoted parent ++ " is not a package"
      | none => "")
  | none => .loaded (memberOf moduleName)

def digitNames : List String :=
  ["ZERO", "ONE", "TWO", "THREE", "FOUR", "FIVE", "SIX", "SEVEN", "EIGHT", "NINE"]

def characterNames : List (String × Char) :=
  let letters := "abcdefghijklmnopqrstuvwxyz".toList
  digitNames.zipIdx.map (fun (name, n) => ("DIGIT " ++ name, Char.ofNat ('0'.toNat + n))) ++
    letters.map (fun c => ("LATIN SMALL LETTER " ++ c.toUpper.toString, c)) ++
    letters.map fun c => ("LATIN CAPITAL LETTER " ++ c.toUpper.toString, c.toUpper)

def nesting (level : Nat) : List Char → Nat
  | [] => level
  | '(' :: s => max level (nesting (level + 1) s)
  | ')' :: s => nesting (level - 1) s
  | _ :: s => nesting level s

def maxNesting : Nat := 450

@[reducible]
def shipped : Host where
  character? name := characterNames.lookup name.toUpper
  importModule := importShipped
  isTooNested text := maxNesting < nesting 0 text.toList
  maxDepth := 900
  isTooNested_empty := by decide

end EnvAudit.Host
