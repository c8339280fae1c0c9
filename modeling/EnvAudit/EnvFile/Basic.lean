namespace EnvAudit

structure Assignment where
  key : String
  value : String
  line : Int
  isQuoted : Bool := false
  comment : Option String := none
  deriving DecidableEq, Repr, Inhabited

namespace Assignment

def text (a : Assignment) : String := a.key ++ "=" ++ a.value

/-- The assignments that win, in file order: a later assignment removes the earlier ones of its key. -/
def effective (assignments : List Assignment) : List Assignment :=
  assignments.foldl (fun kept a => kept.filter (·.key != a.key) ++ [a]) []

def lookup? (assignments : List Assignment) (key : String) : Option Assignment :=
  assignments.reverse.find? (·.key == key)

def setValue (entries : List (String × String)) (key value : String) : List (String × String) :=
  if entries.any (·.1 == key) then
    entries.map fun entry => if entry.1 == key then (key, value) else entry
  else entries ++ [(key, value)]

def values (assignments : List Assignment) : List (String × String) :=
  assignments.foldl (fun entries a => setValue entries a.key a.value) []

/-- The keys that are assigned again, in the order in which the second assignments appear. -/
def repeatedKeys (assignments : List Assignment) : List String :=
  let step := fun (seen, repeated) (a : Assignment) =>
    (a.key :: seen,
      if a.key ∈ seen && a.key ∉ repeated then repeated ++ [a.key] else repeated)
  (assignments.foldl step (([] : List String), ([] : List String))).2

end Assignment

structure MalformedLine where
  line : Int
  text : String
  deriving DecidableEq, Repr, Inhabited

def MalformedLine.message : String := "Invalid variable assignment format"

structure EnvFile where
  assignments : List Assignment := []
  comments : List String := []
  blankLines : List Int := []
  malformed : List MalformedLine := []
  deriving DecidableEq, Repr, Inhabited

namespace EnvFile

def isWellFormed (file : EnvFile) : Bool := file.malformed.isEmpty

def lookup? (file : EnvFile) (key : String) : Option Assignment := Assignment.lookup? file.assignments key

def effective (file : EnvFile) : List Assignment := Assignment.effective file.assignments

def repeatedKeys (file : EnvFile) : List String := Assignment.repeatedKeys file.assignments

end EnvFile

end EnvAudit
