import EnvAudit.EnvFile.Basic
import EnvAudit.Pattern

namespace EnvAudit.Assignment

variable [Host]

def notIgnored (patterns : List String) : List Assignment → Except Pattern.Error (List Assignment)
  | [] => .ok []
  | a :: rest => do
    let ignored ← Pattern.anyMatch patterns a.key
    let others ← notIgnored patterns rest
    return if ignored then others else a :: others

def assigns (assignments : List Assignment) (key : String) : Bool := assignments.any (·.key == key)

end EnvAudit.Assignment
