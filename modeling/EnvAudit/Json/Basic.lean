import EnvAudit.Binary64.Basic

namespace EnvAudit

inductive Json where
  | null
  | bool (value : Bool)
  | int (value : Int)
  | float (value : Binary64)
  | str (value : String)
  | arr (items : List Json)
  | obj (members : List (String × Json))
  deriving Repr, Inhabited

namespace Json

def setMember (members : List (String × Json)) (name : String) (value : Json) : List (String × Json) :=
  if members.any (·.1 == name) then
    members.map fun entry => if entry.1 == name then (name, value) else entry
  else members ++ [(name, value)]

def member? (members : List (String × Json)) (name : String) : Option Json :=
  (members.find? (·.1 == name)).map (·.2)

def strings (items : List String) : Json := arr (items.map str)

def optional : Option String → Json
  | some s => str s
  | none => null

end Json

end EnvAudit
