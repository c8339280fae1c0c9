import EnvAudit.Text.Split

namespace EnvAudit

structure Location where
  anchor : String := ""
  parts : List String := []
  deriving DecidableEq, Repr, Inhabited

namespace Location

def rawParts (path : String) : List String := (Text.splitAll '/' path.toList).map String.ofList

/-- The normal form of a path. Two slashes at the front stay two; three or more are one. -/
def ofString (path : String) : Location where
  anchor :=
    let slashes := (path.toList.takeWhile (· == '/')).length
    if slashes == 0 then "" else if slashes == 2 then "//" else "/"
  parts := (rawParts path).filter fun part => part != "" && part != "."

def toString (l : Location) : String :=
  if l.anchor == "" && l.parts.isEmpty then "." else l.anchor ++ "/".intercalate l.parts

def name (l : Location) : String := l.parts.getLast?.getD ""

def suffix (l : Location) : String :=
  let name := l.name.toList
  let tail := (name.reverse.takeWhile (· != '.')).reverse
  let stem := name.length - tail.length - 1
  if tail.length == name.length || tail.isEmpty || stem == 0 then ""
  else String.ofList ('.' :: tail)

def parent (l : Location) : Location := { l with parts := l.parts.dropLast }

def join (l : Location) (path : String) : Location :=
  let below := ofString path
  if below.anchor == "" then { l with parts := l.parts ++ below.parts } else below

end Location

end EnvAudit
