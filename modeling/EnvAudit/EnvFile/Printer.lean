import EnvAudit.EnvFile.Basic

namespace EnvAudit.Assignment

def render (a : Assignment) : String :=
  let value := if a.isQuoted then "\"" ++ a.value ++ "\"" else a.value
  let comment :=
    match a.comment with
    | some text => if text.isEmpty then "" else " # " ++ text
    | none => ""
  a.key ++ "=" ++ value ++ comment

def stringify (assignments : List Assignment) : String := "\n".intercalate (assignments.map render)

end EnvAudit.Assignment
