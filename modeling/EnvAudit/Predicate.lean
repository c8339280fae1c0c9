import EnvAudit.Host
import EnvAudit.Text.Quoted
import EnvAudit.Text.Split

namespace EnvAudit.Predicate

inductive Fault where
  | malformed (name : String)
  | noModule (moduleName reason : String)
  | noMember (moduleName path : String)
  | notCallable (name : String)
  | relativeModule (moduleName : String)
  | raised (raised : Raised)
  deriving DecidableEq, Repr

def Fault.message : Fault → String
  | malformed name =>
    "predicate must look like 'package.module:function', got " ++ Text.quoted name
  | noModule moduleName reason =>
    "cannot import predicate module " ++ Text.quoted moduleName ++ ": " ++ reason
  | noMember moduleName path =>
    "module " ++ Text.quoted moduleName ++ " has no attribute " ++ Text.quoted path
  | notCallable name => "predicate " ++ Text.quoted name ++ " is not callable"
  | relativeModule moduleName =>
    "the 'package' argument is required to perform a relative import for " ++ Text.quoted moduleName
  | raised r => r.message

def splitName? (name : String) : Option (String × String) :=
  match Text.cutFirst ':' name.toList with
  | (moduleName, some path) =>
    if moduleName.isEmpty || path.isEmpty then none
    else some (String.ofList moduleName, String.ofList path)
  | (_, none) => none

/-- Follows dotted parts from what the parts before them stand for, which is there. -/
def follow (member : List String → Member) (before : List String) : List String → Member
  | [] => member before
  | part :: parts =>
    match member (before ++ [part]) with
    | .absent => .absent
    | .raised r => .raised r
    | .value | .check _ => follow member (before ++ [part]) parts

def resolve [Host] (name : String) : Except Fault Check :=
  match splitName? name with
  | none => .error (.malformed name)
  | some (moduleName, path) =>
    if moduleName.toList.head? == some '.' then .error (.relativeModule moduleName)
    else
      match Host.importModule moduleName with
      | .missing reason => .error (.noModule moduleName reason)
      | .raised r => .error (.raised r)
      | .loaded member =>
        match follow member [] ((Text.splitAll '.' path.toList).map String.ofList) with
        | .absent => .error (.noMember moduleName path)
        | .raised r => .error (.raised r)
        | .value => .error (.notCallable name)
        | .check check => .ok check

end EnvAudit.Predicate
