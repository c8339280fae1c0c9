import EnvAudit.Text.Letter
import EnvAudit.Text.Quoted

namespace EnvAudit.VariableName

def isStart (c : Char) : Bool := c.isAlpha || c == '_'

def isInner (c : Char) : Bool := c.isAlphanum || c == '_'

def isName (s : List Char) : Bool :=
  match s with
  | [] => false
  | c :: rest => isStart c && rest.all isInner

inductive Fault where
  | empty
  | badStart (name : String)
  | badCharacter (name : String)
  deriving DecidableEq, Repr

def Fault.message : Fault → String
  | empty => "Environment variable name cannot be empty"
  | badStart name =>
    "Environment variable name must start with a letter or underscore: " ++ Text.quoted name
  | badCharacter name =>
    "Environment variable name contains invalid characters: " ++ Text.quoted name

/-- Accepts names. Of other texts a letter of any script at the front is not the fault. -/
def check (name : String) : Except Fault Unit :=
  match name.toList with
  | [] => .error .empty
  | c :: rest =>
    if isName (c :: rest) then .ok ()
    else if Text.isLetter c || c == '_' then .error (.badCharacter name)
    else .error (.badStart name)

end EnvAudit.VariableName
