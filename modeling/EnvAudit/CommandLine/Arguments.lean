import EnvAudit.Text.Split

namespace EnvAudit.CommandLine

structure Spec where
  long : String
  short : Option Char := none
  takesValue : Bool := true
  deriving Repr

def Spec.switch (long : String) (short : Option Char := none) : Spec := ⟨long, short, false⟩

def helpSwitch : Spec := .switch "help"

structure Arguments where
  given : List (String × String) := []
  left : List String := []
  deriving Repr

namespace Arguments

def value? (a : Arguments) (long : String) : Option String := a.given.lookup long

def isGiven (a : Arguments) (long : String) : Bool := (a.value? long).isSome

def give (a : Arguments) (long value : String) : Arguments :=
  { a with given := (long, value) :: a.given }

def readLetters (specs : List Spec) (a : Arguments) (rest : List String) :
    List Char → Option (Arguments × List String)
  | [] => some (a, rest)
  | letter :: letters =>
    match specs.find? (·.short == some letter) with
    | none => none
    | some spec =>
      if spec.takesValue then
        match letters, rest with
        | [], [] => none
        | [], next :: rest => some (a.give spec.long next, rest)
        | letters, rest => some (a.give spec.long (String.ofList letters), rest)
      else readLetters specs (a.give spec.long "") rest letters

def readLong (spec : Spec) (a : Arguments) (attached : Option String) (rest : List String) :
    Option (Arguments × List String) :=
  match spec.takesValue, attached, rest with
  | false, none, rest => some (a.give spec.long "", rest)
  | false, some _, _ => none
  | true, some value, rest => some (a.give spec.long value, rest)
  | true, none, next :: rest => some (a.give spec.long next, rest)
  | true, none, [] => none

def readOption (specs : List Spec) (a : Arguments) (arg : List Char) (rest : List String) :
    Option (Arguments × List String) :=
  let (name, attached) := Text.cutFirst '=' arg
  match specs.find? fun spec => '-' :: '-' :: spec.long.toList == name with
  | some spec => readLong spec a (attached.map String.ofList) rest
  | none =>
    match arg with
    | '-' :: '-' :: _ => none
    | _ => readLetters specs a rest (arg.drop 1)

/-- Reads arguments; nothing means that they are not understood. Behind two dashes, and unless options may
stand anywhere behind the first argument of another kind, no options are read. -/
def readFrom (specs : List Spec) (anywhere : Bool) (a : Arguments) : Nat → List String → Option Arguments
  | _, [] => some a
  | 0, _ => none
  | fuel + 1, arg :: rest =>
    if arg == "--" then some { a with left := a.left ++ rest }
    else
      match arg.toList with
      | '-' :: _ :: _ =>
        match readOption specs a arg.toList rest with
        | none => none
        | some (a, rest) => readFrom specs anywhere a fuel rest
      | _ =>
        if anywhere then readFrom specs anywhere { a with left := a.left ++ [arg] } fuel rest
        else some { a with left := a.left ++ arg :: rest }

def read (specs : List Spec) (anywhere : Bool) (args : List String) : Option Arguments :=
  readFrom (helpSwitch :: specs) anywhere {} (args.length + 1) args

end Arguments

end EnvAudit.CommandLine
